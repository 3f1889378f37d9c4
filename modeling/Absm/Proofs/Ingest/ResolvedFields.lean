import Absm.Ingest.PlainRuntime
import Absm.Ingest.Normalizer

/-! The outcome of normalizing a payload depends on the values of the seven resolved fields only. -/

namespace Absm

variable {F : Type}

/-- The keys under which a canonical field is looked up, in this order. -/
def spellings (field : String) : List String :=
  -- The field itself comes before its aliases.
  field :: (lookupEntry field fieldAliases).getD []

/-- The first of the spellings of a field that a payload has a key for carries a value. -/
def FirstPresent (raw : Dict String (Value F)) (field : String) (value : Value F) : Prop :=
  -- A null that is present counts as a value here.
  ∃ before key after, spellings field = before ++ key :: after ∧
    (∀ earlier ∈ before, raw.get? earlier = none) ∧ raw.get? key = some value

/-- A payload has none of the spellings of a field. -/
def Lacks (raw : Dict String (Value F)) (field : String) : Prop :=
  -- No spelling is there.
  ∀ key ∈ spellings field, raw.get? key = none

/-- Two payloads carry the same value in the first spelling of a field that is present, or both have
none of them. -/
def SameField (raw other : Dict String (Value F)) (field : String) : Prop :=
  -- Either both have the value or neither has the field.
  (∃ value, FirstPresent raw field value ∧ FirstPresent other field value) ∨
    Lacks raw field ∧ Lacks other field

/-- Extraction reads the first spelling that is present. -/
theorem extractValue_eq (raw : Dict String (Value F)) (field : String) :
    extractValue raw field = ((spellings field).findSome? raw.get?).getD .none := by
  -- The canonical name is the first spelling.
  rw [extractValue, spellings, List.findSome?_cons]
  cases raw.get? field <;> rfl

/-- The value of the first spelling is the one that is extracted. -/
theorem FirstPresent.extract {raw : Dict String (Value F)} {field : String} {value : Value F}
    (first : FirstPresent raw field value) : extractValue raw field = value := by
  -- The spellings before the first present one are skipped.
  obtain ⟨before, key, after, split, absent, found⟩ := first
  have skipped : before.findSome? raw.get? = none := List.findSome?_eq_none_iff.mpr absent
  rw [extractValue_eq, split, List.findSome?_append, skipped, List.findSome?_cons, found]
  rfl

/-- Without any of its spellings a field is extracted as missing. -/
theorem Lacks.extract {raw : Dict String (Value F)} {field : String} (lacks : Lacks raw field) :
    extractValue raw field = .none := by
  -- The search finds nothing.
  rw [extractValue_eq, List.findSome?_eq_none_iff.mpr lacks]
  rfl

/-- The same field is extracted as the same value. -/
theorem SameField.extract {raw other : Dict String (Value F)} {field : String}
    (same : SameField raw other field) : extractValue raw field = extractValue other field := by
  -- Found in both or in neither.
  rcases same with ⟨value, first, second⟩ | ⟨first, second⟩
  · rw [first.extract, second.extract]
  · rw [first.extract, second.extract]

/-- Normalizing looks at the extracted values of the seven fields only. -/
theorem normalize_congr (runtime : Runtime F) {raw other : Dict String (Value F)}
    (same : ∀ field ∈ modelFields, extractValue raw field = extractValue other field) :
    normalize runtime (.mapping raw) = normalize runtime (.mapping other) := by
  -- The loop over the fields copies nothing else.
  have resolved : resolveFields raw = resolveFields other :=
    List.foldl_ext _ _ _ fun normalized field member => by rw [same field member]
  rw [normalize, normalize, resolved]

/-- Payloads that read alike under every spelling of every field are normalized alike. -/
theorem normalize_reads (runtime : Runtime F) {raw other : Dict String (Value F)}
    (same : ∀ field ∈ modelFields, ∀ key ∈ spellings field, raw.get? key = other.get? key) :
    normalize runtime (.mapping raw) = normalize runtime (.mapping other) := by
  refine normalize_congr runtime fun field member => ?_
  -- The first value found is the first one of all values found.
  rw [extractValue_eq, extractValue_eq, ← List.head?_filterMap, ← List.head?_filterMap,
    List.filterMap_congr (same field member)]

/-- No key is a spelling of two fields. -/
theorem spellings_apart {field other key : String} (fieldIn : field ∈ modelFields)
    (otherIn : other ∈ modelFields) (first : key ∈ spellings field) (second : key ∈ spellings other) :
    field = other := by
  -- The table of aliases is fixed, so this is checked entry by entry.
  have all : ∀ field ∈ modelFields, ∀ other ∈ modelFields, ∀ key ∈ spellings field,
      key ∈ spellings other → field = other := by decide +kernel
  exact all field fieldIn other otherIn key first second

/-- A payload that lacked a field carries the value that the field is added with, under any spelling. -/
theorem Lacks.added {raw : Dict String (Value F)} {field key : String} (lacks : Lacks raw field)
    (member : key ∈ spellings field) (value : Value F) :
    FirstPresent (raw.set key value) field value := by
  -- The spellings before the one that is added are still absent.
  obtain ⟨before, after, split, fresh⟩ := List.eq_append_cons_of_mem member
  refine ⟨before, key, after, split, fun earlier inBefore => ?_, Dict.get?_set_self _ _ _⟩
  have differs : earlier ≠ key := fun same => fresh (same ▸ inBefore)
  rw [Dict.get?_set_of_ne _ differs]
  exact lacks earlier (split ▸ List.mem_append_left _ inBefore)

/-- A payload that lacks a field is normalized alike under each spelling in which the field is added. -/
theorem normalize_added (runtime : Runtime F) {raw : Dict String (Value F)} {field : String}
    (fieldIn : field ∈ modelFields) (lacks : Lacks raw field) {first second : String}
    (firstIn : first ∈ spellings field) (secondIn : second ∈ spellings field) (value : Value F) :
    normalize runtime (.mapping (raw.set first value)) =
      normalize runtime (.mapping (raw.set second value)) := by
  refine normalize_congr runtime fun other otherIn => ?_
  by_cases same : other = field
  · subst same
    rw [(lacks.added firstIn value).extract, (lacks.added secondIn value).extract]
  · -- The spellings of another field are not touched.
    have kept : ∀ key ∈ spellings field, extractValue (raw.set key value) other =
        extractValue raw other := by
      intro key member
      rw [extractValue_eq, extractValue_eq, ← List.head?_filterMap, ← List.head?_filterMap]
      congr 2
      refine List.filterMap_congr fun spelling inside => Dict.get?_set_of_ne _ ?_ _
      rintro rfl
      exact same (spellings_apart otherIn fieldIn inside member)
    rw [kept first firstIn, kept second secondIn]

/-- Two payloads that carry the same value in the first spelling of each field, or lack the field both,
are normalized alike; so are payloads that differ in unknown keys, in the order of their keys, or in the
spelling of a field. What is no dictionary is dropped. -/
theorem normalize_resolved (runtime : Runtime F) :
    (∀ raw other : Dict String (Value F), (∀ field ∈ modelFields, SameField raw other field) →
      normalize runtime (.mapping raw) = normalize runtime (.mapping other)) ∧
    (∀ (raw : Dict String (Value F)) (key : String) (value : Value F),
      (∀ field ∈ modelFields, key ∉ spellings field) →
      normalize runtime (.mapping (raw.set key value)) = normalize runtime (.mapping raw)) ∧
    (∀ raw other : Dict String (Value F), raw.entries.Perm other.entries →
      normalize runtime (.mapping raw) = normalize runtime (.mapping other)) ∧
    (∀ (raw : Dict String (Value F)) (field first second : String) (value : Value F),
      field ∈ modelFields → Lacks raw field → first ∈ spellings field → second ∈ spellings field →
      normalize runtime (.mapping (raw.set first value)) =
        normalize runtime (.mapping (raw.set second value))) ∧
    ∀ value, normalize runtime (.other value) = none := by
  -- Both payloads resolve to the same fields.
  refine ⟨fun raw other same => ?_, fun raw key value unknown => ?_, fun raw other perm => ?_, ?_,
    fun _ => rfl⟩
  · exact normalize_congr runtime fun field member => (same field member).extract
  · refine normalize_reads runtime fun field member spelling inside => ?_
    exact Dict.get?_set_of_ne _ (fun same : spelling = key => unknown field member (same ▸ inside)) _
  · exact normalize_reads runtime fun _ _ key _ => Dict.get?_of_perm perm key
  · intro raw field first second value fieldIn lacks firstIn secondIn
    exact normalize_added runtime fieldIn lacks firstIn secondIn value

/-- A payload that names everything canonically. -/
def canonicalPayload : Dict String (Value (ExtFloat ℚ)) :=
  -- The canonical names.
  .ofList [("user_id", .uuid 1), ("timestamp", .datetime .epoch), ("event_type", .json (.str "auth"))]

/-- The same payload under aliases, in another order and with a key that no model admits. -/
def aliasedPayload : Dict String (Value (ExtFloat ℚ)) :=
  -- Aliases, with the user named twice.
  .ofList [("type", .json (.str "auth")), ("role", .json (.str "root")), ("uid", .uuid 1),
    ("ts", .datetime .epoch), ("user", .uuid 1)]

/-- The two payloads denote one event. -/
theorem normalize_resolved_aliased :
    normalize (plainRuntime (ExtFloat ℚ)) (.mapping canonicalPayload) =
      normalize (plainRuntime (ExtFloat ℚ)) (.mapping aliasedPayload) ∧
    (normalize (plainRuntime (ExtFloat ℚ)) (.mapping canonicalPayload)).isSome := by
  refine ⟨(normalize_resolved (plainRuntime (ExtFloat ℚ))).1 canonicalPayload aliasedPayload ?_,
    by decide +kernel⟩
  -- Three fields are found under their first spelling that is present, and four are missing.
  have missing : ∀ field ∈ ["ip", "email", "session_duration_s", "bytes_out"],
      Lacks canonicalPayload field ∧ Lacks aliasedPayload field := by
    unfold Lacks
    decide +kernel
  intro field member
  rcases List.mem_cons.mp member with rfl | member
  · exact .inl ⟨.uuid 1, ⟨[], "user_id", _, rfl, by decide, rfl⟩,
      ⟨["user_id", "userId"], "user", _, rfl, by decide +kernel, rfl⟩⟩
  rcases List.mem_cons.mp member with rfl | member
  · exact .inl ⟨.datetime .epoch, ⟨[], "timestamp", _, rfl, by decide, rfl⟩,
      ⟨["timestamp", "time"], "ts", _, rfl, by decide +kernel, rfl⟩⟩
  rcases List.mem_cons.mp member with rfl | member
  · exact .inl ⟨.json (.str "auth"), ⟨[], "event_type", _, rfl, by decide, rfl⟩,
      ⟨["event_type", "eventType"], "type", _, rfl, by decide +kernel, rfl⟩⟩
  · exact .inr (missing field member)

end Absm
