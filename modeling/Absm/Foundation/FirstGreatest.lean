import Mathlib.Data.List.Basic
import Mathlib.Data.List.Find
import Mathlib.Order.Basic

/-! The first item of greatest value, and the running maximum that finds it. -/

namespace Absm

variable {α ι : Type} [LinearOrder ι]

/-- The first item that none of the items exceeds in value. -/
def firstGreatest (value : α → ι) (items : List α) : Option α :=
  -- The search goes from the front, so of equal items the first one is found.
  items.find? fun item => ∀ other ∈ items, value other ≤ value item

/-- What is found is an item that none exceeds. -/
theorem firstGreatest_spec {value : α → ι} {items : List α} {best : α}
    (found : firstGreatest value items = some best) :
    best ∈ items ∧ ∀ other ∈ items, value other ≤ value best :=
  -- What is found passes the test.
  ⟨List.mem_of_find?_eq_some found, by simpa using List.find?_some found⟩

/-- Items that are made of other ones are found with them, when the values are the same. -/
theorem firstGreatest_map {β : Type} (f : β → α) {value : α → ι} {key : β → ι} {items : List β}
    (same : ∀ item ∈ items, value (f item) = key item) :
    firstGreatest value (items.map f) = (firstGreatest key items).map f := by
  -- The search asks the same questions about the items and about what is made of them.
  rw [firstGreatest, List.find?_map, firstGreatest]
  congr 1
  refine List.find?_congr fun item member => ?_
  simp only [Function.comp_apply, List.forall_mem_map, decide_eq_decide]
  exact forall₂_congr fun other inside => by rw [same item member, same other inside]

/-- An item that exceeds all others is the one that is found. -/
theorem firstGreatest_unique {value : α → ι} {items : List α} {best winner : α}
    (found : firstGreatest value items = some best) (member : winner ∈ items)
    (greatest : ∀ item ∈ items, item ≠ winner → value item < value winner) : best = winner := by
  -- Another item would have to be smaller than the winner and at least as great.
  obtain ⟨inside, atLeast⟩ := firstGreatest_spec found
  by_contra differs
  exact absurd (atLeast winner member) (not_le.mpr (greatest best inside differs))

/-- An item that the next one exceeds is not the greatest. -/
theorem firstGreatest_displaced (value : α → ι) {best item : α} (more : value best < value item)
    (items : List α) : firstGreatest value (best :: item :: items) =
      firstGreatest value (item :: items) := by
  -- What exceeds none but the first item exceeds that one too.
  have same : ∀ other, (∀ x ∈ best :: item :: items, value x ≤ value other) ↔
      ∀ x ∈ item :: items, value x ≤ value other := by
    intro other
    simp only [List.forall_mem_cons]
    exact and_iff_right_of_imp fun rest => more.le.trans rest.1
  have beaten : ¬ ∀ x ∈ item :: items, value x ≤ value best := fun all =>
    absurd (all item (List.mem_cons_self ..)) (not_le.mpr more)
  simp only [firstGreatest, same]
  rw [List.find?_cons_of_neg (by simpa using beaten)]

/-- An item that the one before is not exceeded by can be left out. -/
theorem firstGreatest_kept (value : α → ι) {best item : α} (less : value item ≤ value best)
    (items : List α) : firstGreatest value (best :: item :: items) =
      firstGreatest value (best :: items) := by
  have same : ∀ other, (∀ x ∈ best :: item :: items, value x ≤ value other) ↔
      ∀ x ∈ best :: items, value x ≤ value other := by
    intro other
    simp only [List.forall_mem_cons]
    exact and_congr_right fun above => and_iff_right_of_imp fun _ => less.trans above
  simp only [firstGreatest, same]
  by_cases wins : ∀ x ∈ best :: items, value x ≤ value best
  · rw [List.find?_cons_of_pos (by simpa using wins), List.find?_cons_of_pos (by simpa using wins)]
  · -- The item would exceed all, and so would the one before it.
    have loses : ¬ ∀ x ∈ best :: items, value x ≤ value item := fun all =>
      wins fun x member => (all x member).trans less
    rw [List.find?_cons_of_neg (by simpa using wins), List.find?_cons_of_neg (by simpa using loses),
      List.find?_cons_of_neg (by simpa using wins)]

end Absm
