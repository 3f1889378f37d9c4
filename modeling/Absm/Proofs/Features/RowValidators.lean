import Absm.Features.ProfileBuilder
import Absm.Proofs.Ingest.CanonicalEvents

/-! Which stored rows are validated as the events that the normalizer would make of them. -/

namespace Absm

variable {F : Type}

/-- The value of a column, `None` when the row does not have it. -/
def QueryRow.column (row : QueryRow F) (name : String) : Value F :=
  -- A missing column reads as null.
  (row.get? name).getD .none

/-- A row with the columns of the models, and no others. -/
def CanonicalColumns (row : QueryRow F) : Prop :=
  -- Neither more nor fewer columns than the model has fields.
  ∀ name, name ∈ row.keys ↔ name ∈ modelFields

/-- The validators of required fields do not take `None`. -/
structure RejectsNull (runtime : Runtime F) : Prop where
  /-- `None` is no identifier. -/
  uuid : runtime.validateUuid .none = none
  /-- `None` is no time. -/
  datetime : runtime.validateDatetime .none = none

/-- A row with the columns of the models has a value in each of them. -/
theorem CanonicalColumns.get? {row : QueryRow F} (columns : CanonicalColumns row) {name : String}
    (known : name ∈ modelFields) : row.get? name = some (QueryRow.column row name) := by
  -- A field of the model is a column here.
  cases found : row.get? name with
  | none => exact absurd ((columns name).mpr known) (Dict.get?_eq_none_iff.mp found)
  | some value => simp [QueryRow.column, found]

/-- The normalizer reads such a row under the names of its columns. -/
theorem CanonicalColumns.extract {row : QueryRow F} (columns : CanonicalColumns row) {name : String}
    (known : name ∈ modelFields) : extractValue row name = QueryRow.column row name := by
  -- The first of the aliases is the name itself.
  rw [extractValue, columns.get? known]

/-- A valid value of a required column is not `None`. -/
theorem requiredField_iff {α : Type} {validate : Value F → Option α} (noNull : validate .none = none)
    (value : Value F) (result : α) :
    RequiredField validate value result ↔ validate value = some result := by
  -- A value that validates is not null.
  refine ⟨And.right, fun valid => ⟨?_, valid⟩⟩
  rw [Bool.eq_false_iff]
  intro null
  rw [eq_none_of_isNone null, noNull] at valid
  cases valid

/-- A string whose lower case is the name of an event type names no other type. -/
theorem namesType_lower_iff {runtime : Runtime F} {name : String} {eventType other : EventType}
    (lowered : lower runtime.lowerBeyond name = eventType.text) :
    NamesType runtime (.json (.str name)) other ↔ other = eventType := by
  -- Each text is the name of one type only.
  constructor
  · intro names
    obtain ⟨-, _, rfl, found⟩ := names
    rw [Runtime.str, lowered, alias_eventType, Option.getD_none, lookup_eventType] at found
    exact (Option.some.inj found).symm
  · intro same
    exact same ▸ namesType_of_lower runtime lowered

/-- A row is validated as an event exactly when its columns make up the event and its type is spelled
as its model class demands. -/
theorem coerceEvent_eq_some {runtime : Runtime F} (rejects : RejectsNull runtime) {row : QueryRow F}
    (columns : CanonicalColumns row) {name : String} {eventType : EventType}
    (typed : row.get? "event_type" = some (.json (.str name)))
    (lowered : lower runtime.lowerBeyond name = eventType.text) (event : Event F) :
    coerceEvent runtime row = some event ↔
      name = eventType.text ∧ Validated runtime (QueryRow.column row) event := by
  -- The model is looked up by the type in lower case, and compares the type as it is.
  have column : QueryRow.column row "event_type" = .json (.str name) := by
    simp [QueryRow.column, typed]
  have validates : coerceEvent runtime row = modelValidate runtime eventType row := by
    simp only [coerceEvent, typed, Option.getD_some, Runtime.str, lowered, lookup_eventType]
    rfl
  rw [validates, modelValidate_eq_some, columns.get? (show "user_id" ∈ modelFields by decide),
    columns.get? (show "timestamp" ∈ modelFields by decide), typed,
    columns.get? (show "ip" ∈ modelFields by decide),
    columns.get? (show "email" ∈ modelFields by decide),
    columns.get? (show "session_duration_s" ∈ modelFields by decide),
    columns.get? (show "bytes_out" ∈ modelFields by decide)]
  simp only [Option.bind_some, literalText, Option.some.injEq]
  constructor
  · intro checks
    obtain ⟨-, identified, dated, spelled, type, ip, email, duration, bytes⟩ := checks
    exact ⟨spelled, (requiredField_iff rejects.uuid _ _).mpr identified,
      (requiredField_iff rejects.datetime _ _).mpr dated,
      column ▸ (namesType_lower_iff lowered).mpr type, ip, email, duration, bytes⟩
  · intro both
    obtain ⟨spelled, validated⟩ := both
    have named := validated.eventType
    rw [column] at named
    exact ⟨fun field member => (columns field).mp member, validated.userId.2, validated.timestamp.2,
      spelled, (namesType_lower_iff lowered).mp named, validated.ip, validated.email,
      validated.sessionDurationS, validated.bytesOut⟩

/-- A row with the columns of the models whose type is a canonical one in any case is validated as the
normalizer validates it exactly when its type is in lower case or another column is not acceptable. -/
theorem coerceEvent_normalize_iff (runtime : Runtime F) (rejects : RejectsNull runtime)
    (row : QueryRow F) (columns : CanonicalColumns row) (name : String) (eventType : EventType)
    (typed : row.get? "event_type" = some (.json (.str name)))
    (lowered : lower runtime.lowerBeyond name = eventType.text) :
    coerceEvent runtime row = normalize runtime (.mapping row) ↔
      name = eventType.text ∨ ¬ Acceptable runtime (QueryRow.column row) := by
  have coerced := coerceEvent_eq_some rejects columns typed lowered
  have normalized : ∀ event, normalize runtime (.mapping row) = some event ↔
      Validated runtime (QueryRow.column row) event := by
    intro event
    have same := fun field (known : field ∈ modelFields) => columns.extract known
    rw [normalize_eq_some]
    exact ⟨fun validated => validated.congr fun field known => (same field known).symm,
      fun validated => validated.congr same⟩
  rw [acceptable_iff]
  constructor
  · intro agree
    by_contra neither
    -- The normalizer finds an event, and the other validator demands the spelling.
    push Not at neither
    obtain ⟨spelled, event, validated⟩ := neither
    exact spelled ((coerced event).mp (agree.trans ((normalized event).mpr validated))).1
  · intro condition
    refine Option.ext fun event => ?_
    rw [coerced, normalized]
    refine and_iff_right_of_imp fun validated => ?_
    exact condition.resolve_right fun none => none ⟨event, validated⟩

/-- A row with a type in some spelling, and with columns that are `NULL`. -/
def spelledRow (name : String) : QueryRow (ExtFloat ℚ) :=
  -- Only the spelling of the type varies.
  .ofList [("user_id", .uuid 1), ("timestamp", .datetime .epoch), ("event_type", .json (.str name)),
    ("ip", .none), ("email", .none), ("session_duration_s", .none), ("bytes_out", .none)]

/-- The validators of the plain spellings do not take `None`. -/
theorem plainRuntime_rejectsNull : RejectsNull (plainRuntime (ExtFloat ℚ)) :=
  -- Both validators answer nothing.
  ⟨rfl, rfl⟩

/-- The law for a type in upper case. -/
theorem coerceEvent_normalize_iff_upper :
    coerceEvent (plainRuntime (ExtFloat ℚ)) (spelledRow "AUTH") =
        normalize (plainRuntime (ExtFloat ℚ)) (.mapping (spelledRow "AUTH")) ↔
      "AUTH" = EventType.auth.text ∨
        ¬ Acceptable (plainRuntime (ExtFloat ℚ)) (QueryRow.column (spelledRow "AUTH")) :=
  -- One row with the type in capitals.
  coerceEvent_normalize_iff (plainRuntime (ExtFloat ℚ)) plainRuntime_rejectsNull (spelledRow "AUTH")
    (by
      have columns : (spelledRow "AUTH").keys = modelFields := by decide +kernel
      intro name
      rw [columns]) "AUTH" .auth rfl (by decide +kernel)

/-- The normalizer accepts a row with its type in upper case, and the other validator skips it. -/
theorem coerceEvent_normalize_fails :
    (spelledRow "AUTH").keys = modelFields ∧ lower (fun c => [c]) "AUTH" = "auth" ∧
      coerceEvent (plainRuntime (ExtFloat ℚ)) (spelledRow "AUTH") = none ∧
      normalize (plainRuntime (ExtFloat ℚ)) (.mapping (spelledRow "AUTH")) =
        some ⟨1, .epoch, .auth, none, none, none, none⟩ ∧
      coerceEvent (plainRuntime (ExtFloat ℚ)) (spelledRow "AUTH") ≠
        normalize (plainRuntime (ExtFloat ℚ)) (.mapping (spelledRow "AUTH")) :=
  -- The stored row is refused where the raw payload is accepted.
  ⟨by decide +kernel, by decide +kernel, by decide +kernel, by decide +kernel, by decide +kernel⟩

end Absm
