import Absm.Proofs.Ingest.ResolvedFields

/-! Which payloads are accepted, field by field, and as which events. -/

namespace Absm

variable {F : Type}

/-! ### Fields -/

/-- A value of a field that must be present: it is there, and it is valid. -/
def RequiredField {α : Type} (validate : Value F → Option α) (value : Value F) (result : α) : Prop :=
  -- A null counts as missing here.
  value.isNone = false ∧ validate value = some result

/-- A value that names an event type, directly or by an alias, in any case. -/
def NamesType (runtime : Runtime F) (value : Value F) (eventType : EventType) : Prop :=
  -- The alias is looked up once, and its name in the table of models.
  runtime.truthy value = true ∧
    ∃ name, name = lower runtime.lowerBeyond (runtime.str value) ∧
      lookupEntry ((lookupEntry name eventTypeAliases).getD name) eventModelByType = some eventType

/-- The values of the seven fields are valid, and this is the event that they make up. -/
structure Validated (runtime : Runtime F) (reading : String → Value F) (event : Event F) : Prop where
  /-- The user is identified. -/
  userId : RequiredField runtime.validateUuid (reading "user_id") event.userId
  /-- The time is known. -/
  timestamp : RequiredField runtime.validateDatetime (reading "timestamp") event.timestamp
  /-- The type is one of the canonical ones. -/
  eventType : NamesType runtime (reading "event_type") event.eventType
  /-- The address is valid, if there is one. -/
  ip : validateOptional runtime.validateStr (some (reading "ip")) = some event.ip
  /-- The mail address is valid, if there is one. -/
  email : validateOptional runtime.validateStr (some (reading "email")) = some event.email
  /-- The duration is valid, if there is one. -/
  sessionDurationS :
    validateOptional runtime.validateFloat (some (reading "session_duration_s")) =
      some event.sessionDurationS
  /-- The number of bytes is valid, if there is one. -/
  bytesOut : validateOptional runtime.validateInt (some (reading "bytes_out")) = some event.bytesOut

/-- None of the seven fields stands in the way of an event. -/
structure Acceptable (runtime : Runtime F) (reading : String → Value F) : Prop where
  /-- The user can be identified. -/
  userId : ∃ userId, RequiredField runtime.validateUuid (reading "user_id") userId
  /-- The time can be told. -/
  timestamp : ∃ timestamp, RequiredField runtime.validateDatetime (reading "timestamp") timestamp
  /-- The type is known. -/
  eventType : ∃ eventType, NamesType runtime (reading "event_type") eventType
  /-- The address is `None` or valid. -/
  ip : (validateOptional runtime.validateStr (some (reading "ip"))).isSome
  /-- The mail address is `None` or valid. -/
  email : (validateOptional runtime.validateStr (some (reading "email"))).isSome
  /-- The duration is `None` or valid. -/
  sessionDurationS :
    (validateOptional runtime.validateFloat (some (reading "session_duration_s"))).isSome
  /-- The number of bytes is `None` or valid. -/
  bytesOut : (validateOptional runtime.validateInt (some (reading "bytes_out"))).isSome

/-- Values that make up an event are acceptable, and acceptable values make up an event. -/
theorem acceptable_iff (runtime : Runtime F) (reading : String → Value F) :
    Acceptable runtime reading ↔ ∃ event, Validated runtime reading event := by
  constructor
  · intro acceptable
    -- The event is put together from what the fields give.
    obtain ⟨userId, identified⟩ := acceptable.userId
    obtain ⟨timestamp, dated⟩ := acceptable.timestamp
    obtain ⟨eventType, typed⟩ := acceptable.eventType
    obtain ⟨ip, ipValid⟩ := Option.isSome_iff_exists.mp acceptable.ip
    obtain ⟨email, emailValid⟩ := Option.isSome_iff_exists.mp acceptable.email
    obtain ⟨duration, durationValid⟩ := Option.isSome_iff_exists.mp acceptable.sessionDurationS
    obtain ⟨bytes, bytesValid⟩ := Option.isSome_iff_exists.mp acceptable.bytesOut
    exact ⟨⟨userId, timestamp, eventType, ip, email, duration, bytes⟩,
      ⟨identified, dated, typed, ipValid, emailValid, durationValid, bytesValid⟩⟩
  · intro found
    obtain ⟨event, validated⟩ := found
    exact ⟨⟨_, validated.userId⟩, ⟨_, validated.timestamp⟩, ⟨_, validated.eventType⟩,
      Option.isSome_iff_exists.mpr ⟨_, validated.ip⟩,
      Option.isSome_iff_exists.mpr ⟨_, validated.email⟩,
      Option.isSome_iff_exists.mpr ⟨_, validated.sessionDurationS⟩,
      Option.isSome_iff_exists.mpr ⟨_, validated.bytesOut⟩⟩

/-- Equal values of the seven fields make up equal events. -/
theorem Validated.congr {runtime : Runtime F} {reading other : String → Value F} {event : Event F}
    (validated : Validated runtime reading event)
    (same : ∀ field ∈ modelFields, other field = reading field) : Validated runtime other event := by
  -- Each of the seven checks looks at one of the fields.
  constructor
  · rw [same _ (by decide)]
    exact validated.userId
  · rw [same _ (by decide)]
    exact validated.timestamp
  · rw [same _ (by decide)]
    exact validated.eventType
  · rw [same _ (by decide)]
    exact validated.ip
  · rw [same _ (by decide)]
    exact validated.email
  · rw [same _ (by decide)]
    exact validated.sessionDurationS
  · rw [same _ (by decide)]
    exact validated.bytesOut

/-! ### Nulls -/

/-- A value that is `None` stands for a missing one. -/
theorem validateOptional_eq_some {α : Type} {validate : Value F → Option α} {value : Value F}
    {result : Option α} (valid : validateOptional validate (some value) = some result) :
    value.isNone = result.isNone := by
  -- What the validator makes of a value that is not `None` is not `none`.
  simp only [validateOptional] at valid
  split at valid
  case isTrue null =>
    cases valid
    exact null
  case isFalse there =>
    obtain ⟨found, -, rfl⟩ := Option.map_eq_some_iff.mp valid
    simpa using there

/-- A missing optional field is validated like one that is `None`. -/
theorem validateOptional_null {α : Type} (validate : Value F → Option α) (value : Value F) :
    validateOptional validate (if value.isNone then none else some value) =
      validateOptional validate (some value) := by
  -- An optional field takes a null for a missing one.
  cases null : value.isNone with
  | true => simp [validateOptional, null]
  | false => rfl

/-- Only `None` is `None`. -/
theorem eq_none_of_isNone {value : Value F} (null : value.isNone = true) : value = .none := by
  -- All other values are told apart by their form.
  unfold Value.isNone at null
  split at null
  case h_1 => rfl
  case h_2 => cases null

/-- What names an event type is not `None`, which is not true. -/
theorem NamesType.isNone {runtime : Runtime F} {value : Value F} {eventType : EventType}
    (names : NamesType runtime value eventType) : value.isNone = false := by
  -- A null is false, so the validator gives up first.
  rw [Bool.eq_false_iff]
  intro null
  have truth := names.1
  rw [eq_none_of_isNone null] at truth
  cases truth

/-- The event tells which of the values that it is made up of were `None`. -/
theorem Validated.isNone_eq {runtime : Runtime F} {reading other : String → Value F} {event : Event F}
    (first : Validated runtime reading event) (second : Validated runtime other event) :
    ∀ field ∈ modelFields, (reading field).isNone = (other field).isNone := by
  -- Required values are not `None`, and optional ones are exactly when the event lacks them.
  intro field member
  simp only [modelFields, List.mem_cons, List.not_mem_nil, or_false] at member
  rcases member with rfl | rfl | rfl | rfl | rfl | rfl | rfl
  · rw [first.userId.1, second.userId.1]
  · rw [first.timestamp.1, second.timestamp.1]
  · rw [first.eventType.isNone, second.eventType.isNone]
  · rw [validateOptional_eq_some first.ip, validateOptional_eq_some second.ip]
  · rw [validateOptional_eq_some first.email, validateOptional_eq_some second.email]
  · rw [validateOptional_eq_some first.sessionDurationS,
      validateOptional_eq_some second.sessionDurationS]
  · rw [validateOptional_eq_some first.bytesOut, validateOptional_eq_some second.bytesOut]

/-! ### Validation -/

/-- What a model class accepts: no other fields, valid values, and its own literal. -/
theorem modelValidate_eq_some {runtime : Runtime F} {model : EventType} {fields : Dict String (Value F)}
    {event : Event F} : modelValidate runtime model fields = some event ↔
      (∀ field ∈ fields.keys, field ∈ modelFields) ∧
      (fields.get? "user_id").bind runtime.validateUuid = some event.userId ∧
      (fields.get? "timestamp").bind runtime.validateDatetime = some event.timestamp ∧
      (fields.get? "event_type").bind literalText = some model.text ∧ event.eventType = model ∧
      validateOptional runtime.validateStr (fields.get? "ip") = some event.ip ∧
      validateOptional runtime.validateStr (fields.get? "email") = some event.email ∧
      validateOptional runtime.validateFloat (fields.get? "session_duration_s") =
        some event.sessionDurationS ∧
      validateOptional runtime.validateInt (fields.get? "bytes_out") = some event.bytesOut := by
  -- Each check passes on what it has found, and the event holds all of it.
  simp only [modelValidate, guard, Option.bind_eq_bind, Option.bind_eq_some_iff, Option.pure_def]
  constructor
  · intro returned
    obtain ⟨_, known, userId, identified, timestamp, dated, _, literal, ip, ipValid, email, emailValid,
      duration, durationValid, bytes, bytesValid, same⟩ := returned
    cases same
    refine ⟨?_, identified, dated, ?_, rfl, ipValid, emailValid, durationValid, bytesValid⟩
    · by_contra unknown
      rw [if_neg unknown] at known
      cases known
    · by_contra other
      rw [if_neg other] at literal
      cases literal
  · intro checks
    obtain ⟨known, identified, dated, literal, rfl, ipValid, emailValid, durationValid, bytesValid⟩ :=
      checks
    exact ⟨(), if_pos known, _, identified, _, dated, (), if_pos literal, _, ipValid, _, emailValid,
      _, durationValid, _, bytesValid, rfl⟩

/-- The resolved fields are the model's fields that are not extracted as `None`. -/
theorem resolveFields_get? (raw : Dict String (Value F)) (field : String) :
    (resolveFields raw).get? field =
      if field ∈ modelFields ∧ (extractValue raw field).isNone = false then
        some (extractValue raw field) else none := by
  -- The induction is on the fields that the loop has still to go through.
  have general : ∀ (fields : List String) (normalized : Dict String (Value F)),
      (fields.foldl (fun normalized field =>
        if (extractValue raw field).isNone then normalized
        else normalized.set field (extractValue raw field)) normalized).get? field =
      if field ∈ fields ∧ (extractValue raw field).isNone = false then
        some (extractValue raw field) else normalized.get? field := by
    intro fields
    induction fields with
    | nil => simp
    | cons first fields ih =>
      intro normalized
      rw [List.foldl_cons, ih]
      by_cases later : field ∈ fields ∧ (extractValue raw field).isNone = false
      · rw [if_pos later, if_pos ⟨List.mem_cons_of_mem _ later.1, later.2⟩]
      · rw [if_neg later]
        by_cases same : field = first
        · subst same
          cases null : (extractValue raw field).isNone <;> simp
        · have absent : ¬ (field ∈ first :: fields ∧ (extractValue raw field).isNone = false) :=
            fun both => later ⟨(List.mem_cons.mp both.1).resolve_left same, both.2⟩
          rw [if_neg absent]
          split
          · rfl
          · exact Dict.get?_set_of_ne _ same _
  exact general modelFields .empty

/-- A field of the models is resolved to what is extracted for it, unless that is `None`. -/
theorem resolveFields_known (raw : Dict String (Value F)) {field : String} (known : field ∈ modelFields) :
    (resolveFields raw).get? field =
      if (extractValue raw field).isNone then none else some (extractValue raw field) := by
  -- Fields that resolve to null are dropped before the validation.
  rw [resolveFields_get?]
  cases (extractValue raw field).isNone <;> simp [known]

/-- Only fields of the models are resolved. -/
theorem resolveFields_keys (raw : Dict String (Value F)) {field : String}
    (member : field ∈ (resolveFields raw).keys) : field ∈ modelFields := by
  -- Any other field reads as absent.
  by_contra unknown
  refine Dict.get?_eq_none_iff.mp ?_ member
  rw [resolveFields_get?, if_neg fun both => unknown both.1]

/-- A required field that is resolved is valid exactly when what is extracted is there and valid. -/
theorem bind_resolved {α : Type} (validate : Value F → Option α) (value : Value F) (result : α) :
    (if value.isNone then none else some value).bind validate = some result ↔
      RequiredField validate value result := by
  -- Dropping the null and refusing it come to the same.
  cases null : value.isNone <;> simp [RequiredField, null]

/-- The resolved fields under a canonical type are valid exactly when the extracted values are. -/
theorem modelValidate_resolved (runtime : Runtime F) (raw : Dict String (Value F)) (model : EventType)
    (name : String) (event : Event F) :
    modelValidate runtime model ((resolveFields raw).set "event_type" (.json (.str name))) =
        some event ↔
      RequiredField runtime.validateUuid (extractValue raw "user_id") event.userId ∧
      RequiredField runtime.validateDatetime (extractValue raw "timestamp") event.timestamp ∧
      name = model.text ∧ event.eventType = model ∧
      validateOptional runtime.validateStr (some (extractValue raw "ip")) = some event.ip ∧
      validateOptional runtime.validateStr (some (extractValue raw "email")) = some event.email ∧
      validateOptional runtime.validateFloat (some (extractValue raw "session_duration_s")) =
        some event.sessionDurationS ∧
      validateOptional runtime.validateInt (some (extractValue raw "bytes_out")) =
        some event.bytesOut := by
  -- Only the event type is replaced, and no other field is added.
  have known : ∀ field ∈ ((resolveFields raw).set "event_type" (.json (.str name))).keys,
      field ∈ modelFields := by
    intro field member
    by_contra unknown
    refine Dict.get?_eq_none_iff.mp ?_ member
    rw [Dict.get?_set_of_ne _ fun same => unknown (by simp [same, modelFields])]
    exact Dict.get?_eq_none_iff.mpr fun inside => unknown (resolveFields_keys raw inside)
  have reads : ∀ {field : String}, field ∈ modelFields → field ≠ "event_type" →
      ((resolveFields raw).set "event_type" (.json (.str name))).get? field =
        if (extractValue raw field).isNone then none else some (extractValue raw field) :=
    fun inside other => (Dict.get?_set_of_ne _ other _).trans (resolveFields_known raw inside)
  rw [modelValidate_eq_some, Dict.get?_set_self, reads (by decide) (by decide),
    reads (by decide) (by decide), reads (by decide) (by decide), reads (by decide) (by decide),
    reads (by decide) (by decide), reads (by decide) (by decide)]
  simp only [bind_resolved, validateOptional_null, Option.bind_some, literalText, Option.some.injEq]
  exact and_iff_right known

/-- The name of an event type is in lower case. -/
theorem lower_eventType (beyond : Char → List Char) (eventType : EventType) :
    lower beyond eventType.text = eventType.text := by
  -- The names of the event types are in lower case.
  cases eventType <;> rfl

/-- The name of an event type names its model. -/
theorem lookup_eventType (eventType : EventType) :
    lookupEntry eventType.text eventModelByType = some eventType := by
  -- Three types, three entries.
  cases eventType <;> decide

/-- The name of an event type is no alias. -/
theorem alias_eventType (eventType : EventType) : lookupEntry eventType.text eventTypeAliases = none := by
  -- The canonical names are nobody's aliases.
  cases eventType <;> decide

/-- The canonical name of a type is the one that its model class demands. -/
theorem text_of_lookup {name : String} {eventType : EventType}
    (found : lookupEntry name eventModelByType = some eventType) : name = eventType.text := by
  -- The table has one entry for each class.
  have entry := mem_of_lookupEntry found
  simp only [eventModelByType, List.mem_cons, Prod.mk.injEq, List.not_mem_nil, or_false] at entry
  rcases entry with ⟨rfl, rfl⟩ | ⟨rfl, rfl⟩ | ⟨rfl, rfl⟩ <;> rfl

/-- A payload is normalized as an event exactly when this is what its extracted values make up. -/
theorem normalize_eq_some (runtime : Runtime F) (raw : Dict String (Value F)) (event : Event F) :
    normalize runtime (.mapping raw) = some event ↔ Validated runtime (extractValue raw) event := by
  -- Each bind of the source is one part of the specification.
  simp only [normalize, guard, Option.bind_eq_bind, Option.bind_eq_some_iff, modelValidate_resolved,
    resolveFields_known raw (show "event_type" ∈ modelFields by decide)]
  constructor
  · intro returned
    obtain ⟨value, found, _, truth, model, named, identified, dated, -, rfl, ip, email, duration,
      bytes⟩ := returned
    obtain ⟨-, rfl⟩ : (extractValue raw "event_type").isNone = false ∧
        extractValue raw "event_type" = value := by
      cases null : (extractValue raw "event_type").isNone <;> simp [null] at found ⊢
      exact found
    refine ⟨identified, dated, ⟨?_, _, rfl, named⟩, ip, email, duration, bytes⟩
    by_contra falsy
    rw [if_neg falsy] at truth
    cases truth
  · intro validated
    obtain ⟨truth, _, rfl, named⟩ := validated.eventType
    exact ⟨extractValue raw "event_type", by rw [validated.eventType.isNone]; rfl, (), if_pos truth, _, named,
      validated.userId, validated.timestamp, text_of_lookup named, rfl, validated.ip, validated.email,
      validated.sessionDurationS, validated.bytesOut⟩

end Absm
