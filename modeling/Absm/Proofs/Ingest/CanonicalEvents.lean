import Absm.Proofs.Ingest.NullFields

/-! Normalizing again what has been normalized. -/

namespace Absm

variable {F : Type}

/-- The value that an event has for a field of the models. -/
def Event.value (event : Event F) : String → Value F
  -- Optional fields are null where the event has none.
  | "user_id" => .uuid event.userId
  | "timestamp" => .datetime event.timestamp
  | "event_type" => .json (.str event.eventType.text)
  | "ip" => nullable (fun text => .json (.str text)) event.ip
  | "email" => nullable (fun text => .json (.str text)) event.email
  | "session_duration_s" => nullable (fun value => .json (.float value)) event.sessionDurationS
  | "bytes_out" => nullable (fun count => .json (.int count)) event.bytesOut
  | _ => .none

/-- The dictionary of an event's fields. -/
def Event.fields (event : Event F) : Dict String (Value F) :=
  -- In the order of the model.
  .ofList (modelFields.map fun field => (field, event.value field))

/-- The dictionary has each field of the models and no other key. -/
theorem Event.fields_get? (event : Event F) (key : String) :
    event.fields.get? key = if key ∈ modelFields then some (event.value key) else none := by
  -- No two fields have the same name, so each of them keeps its own value.
  have distinct : modelFields.Nodup := by decide
  have entries : event.fields.entries = modelFields.map fun field => (field, event.value field) :=
    Dict.ofList_entries (by exact distinct)
  split
  case isTrue member =>
    rw [← Dict.mem_entries_iff, entries]
    exact List.mem_map.mpr ⟨key, member, rfl⟩
  case isFalse unknown =>
    rw [Dict.get?_eq_none_iff, Dict.keys, entries, List.map_map]
    simpa using unknown

/-- The canonical name of each field is found, and its value extracted. -/
theorem Event.extract_fields (event : Event F) {field : String} (member : field ∈ modelFields) :
    extractValue event.fields field = event.value field := by
  -- The field itself is the first key that is tried.
  rw [extractValue, event.fields_get?, if_pos member]

/-- No field of the dictionary is shadowed, since it has no aliases. -/
theorem Event.not_shadowed (event : Event F) {field : String} (member : field ∈ modelFields) :
    ¬ Shadowed event.fields field := by
  -- The only spelling that is present is the first one.
  intro shadowed
  obtain ⟨null, -⟩ := shadowed.extract
  obtain ⟨-, key, spelled, value, found, there⟩ := shadowed
  rw [event.fields_get?] at found
  split at found
  case isTrue known =>
    obtain rfl := spellings_apart member known spelled (List.mem_cons_self ..)
    rw [event.extract_fields member, Option.some.inj found, there] at null
    cases null
  case isFalse => cases found

/-- A missing field is valid as missing, and one that is there as what it is. -/
theorem validateOptional_nullable {α : Type} {validate : Value F → Option α} {value : α → Value F}
    (self : ∀ x, validate (value x) = some x) (there : ∀ x, (value x).isNone = false)
    (field : Option α) :
    validateOptional validate (some (nullable value field)) = some field := by
  -- A null stays null and a value validates to itself.
  cases field with
  | none => rfl
  | some x => simp [validateOptional, nullable, self, there]

/-- A string whose lower case is the name of an event type names that type. -/
theorem namesType_of_lower (runtime : Runtime F) {name : String} {eventType : EventType}
    (same : lower runtime.lowerBeyond name = eventType.text) :
    NamesType runtime (.json (.str name)) eventType := by
  refine ⟨?_, _, rfl, ?_⟩
  · -- The lower case of the empty string is empty.
    have nonempty : name ≠ "" := by
      rintro rfl
      cases eventType <;> simp [lower, EventType.text] at same
    simpa [Runtime.truthy] using nonempty
  · rw [Runtime.str, same, alias_eventType, Option.getD_none, lookup_eventType]

/-- The values of an event are valid, and make up the event. -/
theorem Event.validated (runtime : Runtime F) (event : Event F) : Validated runtime event.value event where
  -- Every value is in the form its validator returns.
  userId := ⟨rfl, runtime.uuid_self _⟩
  timestamp := ⟨rfl, runtime.datetime_self _⟩
  eventType := namesType_of_lower runtime (lower_eventType _ _)
  ip := validateOptional_nullable runtime.str_self (fun _ => rfl) _
  email := validateOptional_nullable runtime.str_self (fun _ => rfl) _
  sessionDurationS := validateOptional_nullable runtime.float_self (fun _ => rfl) _
  bytesOut := validateOptional_nullable runtime.int_self (fun _ => rfl) _

/-- An event that a payload is normalized as is of the class of its canonical type, which the payload
names; and its own fields, with or without those that are `None`, are normalized as the same event. -/
theorem normalize_again (runtime : Runtime F) (raw : Raw F) (event : Event F)
    (accepted : normalize runtime raw = some event) :
    (∃ payload, raw = .mapping payload ∧
      NamesType runtime (extractValue payload "event_type") event.eventType) ∧
    event.fields.get? "event_type" = some (.json (.str event.eventType.text)) ∧
    lookupEntry event.eventType.text eventModelByType = some event.eventType ∧
    normalize runtime (.mapping event.fields) = some event ∧
    normalize runtime (.mapping (withoutNulls event.fields)) = some event := by
  have again : normalize runtime (.mapping event.fields) = some event := by
    have validated := event.validated runtime
    exact (normalize_eq_some runtime _ event).mpr
      (validated.congr fun field member => event.extract_fields member)
  refine ⟨?_, by rw [event.fields_get?]; rfl, lookup_eventType _, again, ?_⟩
  · cases raw with
    | other value => cases accepted
    | mapping payload =>
      exact ⟨payload, rfl, ((normalize_eq_some runtime payload event).mp accepted).eventType⟩
  · -- No field is shadowed, so the nulls make no difference.
    rw [(normalize_withoutNulls_iff runtime event.fields).mpr
      (.inl fun field member => event.not_shadowed member), again]

/-- A payload that names its type and its fields by aliases. -/
def loginPayload : Dict String (Value (ExtFloat ℚ)) :=
  -- All keys are aliases and the type is one as well.
  .ofList [("type", .json (.str "Login")), ("uid", .uuid 1), ("ts", .datetime .epoch),
    ("ipAddress", .json (.str "10.0.0.1"))]

/-- The event that the payload is normalized as. -/
def loginEvent : Event (ExtFloat ℚ) :=
  -- The event of that payload.
  ⟨1, .epoch, .auth, some "10.0.0.1", none, none, none⟩

/-- The law for this payload. -/
theorem normalize_again_login :
    (∃ payload, Raw.mapping loginPayload = .mapping payload ∧
      NamesType (plainRuntime (ExtFloat ℚ)) (extractValue payload "event_type") loginEvent.eventType) ∧
    loginEvent.fields.get? "event_type" = some (.json (.str loginEvent.eventType.text)) ∧
    lookupEntry loginEvent.eventType.text eventModelByType = some loginEvent.eventType ∧
    normalize (plainRuntime (ExtFloat ℚ)) (.mapping loginEvent.fields) = some loginEvent ∧
    normalize (plainRuntime (ExtFloat ℚ)) (.mapping (withoutNulls loginEvent.fields)) =
      some loginEvent :=
  -- A login named by its aliases.
  normalize_again (plainRuntime (ExtFloat ℚ)) (.mapping loginPayload) loginEvent (by decide +kernel)

end Absm
