import Absm.Proofs.Ingest.AcceptedPayloads

/-! When a field that is `None` is treated like one that is absent. -/

namespace Absm

variable {F : Type}

/-- A payload without its entries that are `None`. -/
def withoutNulls (raw : Dict String (Value F)) : Dict String (Value F) :=
  -- The other entries keep their order.
  raw.filterValues fun value => !value.isNone

/-- The first spelling of a field that is present is `None`, and another one has a value. -/
def Shadowed (raw : Dict String (Value F)) (field : String) : Prop :=
  -- A null comes first and a value after it.
  FirstPresent raw field .none ∧
    ∃ key ∈ spellings field, ∃ value, raw.get? key = some value ∧ value.isNone = false

/-- What is left of the entry of a key. -/
theorem withoutNulls_get? (raw : Dict String (Value F)) (key : String) :
    (withoutNulls raw).get? key = (raw.get? key).filter fun value => !value.isNone :=
  -- The filter looks at values only.
  Dict.get?_filterValues _ raw key

/-- A value under the first spelling that is present keeps this place when it is not `None`. -/
theorem FirstPresent.withoutNulls {raw : Dict String (Value F)} {field : String} {value : Value F}
    (first : FirstPresent raw field value) (there : value.isNone = false) :
    FirstPresent (withoutNulls raw) field value := by
  -- The spellings before it stay absent.
  obtain ⟨before, key, after, split, absent, found⟩ := first
  refine ⟨before, key, after, split, fun earlier member => ?_, ?_⟩
  · rw [withoutNulls_get?, absent earlier member]
    rfl
  · rw [withoutNulls_get?, found, Option.filter_some, there]
    rfl

/-- A payload has some spelling of a field first, or none at all. -/
theorem firstPresent_or_lacks (raw : Dict String (Value F)) (field : String) :
    (∃ value, FirstPresent raw field value) ∨ Lacks raw field := by
  -- The search for a spelling either ends at one or passes all of them.
  cases found : (spellings field).findSome? raw.get? with
  | none => exact .inr (List.findSome?_eq_none_iff.mp found)
  | some value =>
    obtain ⟨before, key, after, split, here, absent⟩ := List.findSome?_eq_some_iff.mp found
    exact .inl ⟨value, before, key, after, split, absent, here⟩

/-- Without values under any spelling nothing but `None` is left to be extracted. -/
theorem lacks_withoutNulls {raw : Dict String (Value F)} {field : String}
    (nulls : ∀ key ∈ spellings field, ∀ value, raw.get? key = some value → value.isNone = true) :
    Lacks (withoutNulls raw) field := by
  -- Each entry of a spelling is removed.
  intro key member
  rw [withoutNulls_get?, Option.filter_eq_none_iff]
  intro value found
  simp [nulls key member value found]

/-- A field that is not shadowed is extracted alike without the nulls. -/
theorem extract_withoutNulls {raw : Dict String (Value F)} {field : String}
    (clear : ¬ Shadowed raw field) : extractValue (withoutNulls raw) field = extractValue raw field := by
  rcases firstPresent_or_lacks raw field with ⟨value, first⟩ | lacks
  · cases null : value.isNone with
    | false => rw [(first.withoutNulls null).extract, first.extract]
    | true =>
      obtain rfl := eq_none_of_isNone null
      -- No other spelling has a value that could take the place of the null.
      have nulls : ∀ key ∈ spellings field, ∀ value, raw.get? key = some value →
          value.isNone = true := by
        intro key member value found
        by_contra there
        exact clear ⟨first, key, member, value, found, by simpa using there⟩
      rw [first.extract, (lacks_withoutNulls nulls).extract]
  · have nulls : ∀ key ∈ spellings field, ∀ value, raw.get? key = some value →
        value.isNone = true := by
      intro key member value found
      rw [lacks key member] at found
      cases found
    rw [lacks.extract, (lacks_withoutNulls nulls).extract]

/-- A field that is shadowed is extracted as `None`, and without the nulls as a value. -/
theorem Shadowed.extract {raw : Dict String (Value F)} {field : String} (shadowed : Shadowed raw field) :
    (extractValue raw field).isNone = true ∧
      (extractValue (withoutNulls raw) field).isNone = false := by
  obtain ⟨first, key, member, value, found, there⟩ := shadowed
  refine ⟨by rw [first.extract]; rfl, ?_⟩
  rcases firstPresent_or_lacks (withoutNulls raw) field with ⟨other, left⟩ | lacks
  · -- What is left of the payload holds no nulls.
    obtain ⟨_, spelling, _, _, _, kept⟩ := id left
    rw [withoutNulls_get?, Option.filter_eq_some_iff] at kept
    rw [left.extract]
    simpa using kept.2
  · have kept := lacks key member
    rw [withoutNulls_get?, found, Option.filter_some, there] at kept
    cases kept

/-- A payload is dropped exactly when its extracted values are not acceptable. -/
theorem normalize_eq_none (runtime : Runtime F) (raw : Dict String (Value F)) :
    normalize runtime (.mapping raw) = none ↔ ¬ Acceptable runtime (extractValue raw) := by
  -- What is acceptable has an event, and no other payload has one.
  rw [acceptable_iff, Option.eq_none_iff_forall_ne_some, not_exists]
  exact forall_congr' fun event => not_congr (normalize_eq_some runtime raw event)

/-- Removing the nulls from a payload makes no difference exactly when no field is shadowed by one, or
when the payload is dropped with and without them. -/
theorem normalize_withoutNulls_iff (runtime : Runtime F) (raw : Dict String (Value F)) :
    normalize runtime (.mapping (withoutNulls raw)) = normalize runtime (.mapping raw) ↔
      (∀ field ∈ modelFields, ¬ Shadowed raw field) ∨
        ¬ Acceptable runtime (extractValue raw) ∧
          ¬ Acceptable runtime (extractValue (withoutNulls raw)) := by
  constructor
  · intro same
    by_cases clear : ∀ field ∈ modelFields, ¬ Shadowed raw field
    · exact .inl clear
    · -- An event tells which fields were missing, so both payloads cannot have the same one.
      push Not at clear
      obtain ⟨field, member, shadowed⟩ := clear
      obtain ⟨null, there⟩ := shadowed.extract
      have different : ∀ event, normalize runtime (.mapping raw) = some event →
          normalize runtime (.mapping (withoutNulls raw)) = some event → False := by
        intro event first second
        have equal := ((normalize_eq_some runtime raw event).mp first).isNone_eq
          ((normalize_eq_some runtime _ event).mp second) field member
        rw [null, there] at equal
        cases equal
      rw [← normalize_eq_none, ← normalize_eq_none, same, and_self]
      refine .inr (Option.eq_none_iff_forall_ne_some.mpr fun event found => ?_)
      exact different event found (same.trans found)
  · intro condition
    rcases condition with clear | ⟨first, second⟩
    · exact normalize_congr runtime fun field member => extract_withoutNulls (clear field member)
    · rw [(normalize_eq_none runtime _).mpr first, (normalize_eq_none runtime _).mpr second]

/-- A payload with a null under the canonical name of a field and a value under an alias. -/
def shadowedPayload : Dict String (Value (ExtFloat ℚ)) :=
  -- The null user stands before the alias.
  .ofList [("user_id", .none), ("uid", .uuid 1), ("timestamp", .datetime .epoch),
    ("event_type", .json (.str "auth"))]

/-- The payload is dropped for its null, and accepted without it. -/
theorem normalize_withoutNulls_fails :
    normalize (plainRuntime (ExtFloat ℚ)) (.mapping shadowedPayload) = none ∧
      normalize (plainRuntime (ExtFloat ℚ)) (.mapping (withoutNulls shadowedPayload)) =
        some ⟨1, .epoch, .auth, none, none, none, none⟩ ∧
      normalize (plainRuntime (ExtFloat ℚ)) (.mapping (withoutNulls shadowedPayload)) ≠
        normalize (plainRuntime (ExtFloat ℚ)) (.mapping shadowedPayload) :=
  -- Without the null the alias is found.
  ⟨by decide +kernel, by decide +kernel, by decide +kernel⟩

end Absm
