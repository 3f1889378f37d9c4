import Mathlib.Data.List.Sort
import Mathlib.Order.Defs.LinearOrder

/-! The items of a sorted list by their positions, and how many items lie above and below them. -/

namespace Absm

variable {α : Type} [LinearOrder α]

/-- The items in ascending order. -/
def ascending (items : List α) : List α :=
  -- The sorted list is that of `sorted`; among equal numbers the order cannot be seen.
  items.insertionSort (· ≤ ·)

/-- The items in ascending order are the items. -/
theorem ascending_perm (items : List α) : (ascending items).Perm items :=
  -- Sorting only moves items.
  List.perm_insertionSort _ _

/-- As many items are in ascending order as there are. -/
@[simp] theorem length_ascending (items : List α) : (ascending items).length = items.length :=
  -- As many items are there afterwards.
  (ascending_perm items).length_eq

/-- Each item is at most the ones behind it. -/
theorem ascending_sorted (items : List α) : (ascending items).Pairwise (· ≤ ·) :=
  -- This is what sorting is for.
  List.pairwise_insertionSort _ _

/-- The ascending order does not depend on the order that the items come in. -/
theorem ascending_congr {items others : List α} (perm : items.Perm others) :
    ascending items = ascending others := by
  -- Two orders of the same items in which no item descends are equal.
  have same := (ascending_perm items).trans (perm.trans (ascending_perm others).symm)
  exact same.eq_of_pairwise (fun _ _ _ _ => le_antisymm) (ascending_sorted items)
    (ascending_sorted others)

/-- In ascending order the items with a property that smaller items share are the first ones. -/
theorem downward_iff {sorted : List α} (ordered : sorted.Pairwise (· ≤ ·)) (holds : α → Bool)
    (downward : ∀ x y, x ≤ y → holds y = true → holds x = true) {position : Nat}
    (below : position < sorted.length) :
    holds sorted[position] = true ↔ position < sorted.countP holds := by
  induction sorted generalizing position with
  | nil => cases below
  | cons first sorted ih =>
    obtain ⟨smallest, ordered⟩ := List.pairwise_cons.mp ordered
    cases found : holds first with
    | true =>
      rw [List.countP_cons_of_pos found]
      cases position with
      | zero => simp [found]
      | succ position =>
        rw [List.getElem_cons_succ, ih ordered]
        omega
    | false =>
      -- Without the first item no other item has the property.
      have none : ∀ item ∈ sorted, holds item = false := by
        intro item member
        rw [Bool.eq_false_iff]
        intro held
        rw [downward first item (smallest item member) held] at found
        cases found
      have count : (first :: sorted).countP holds = 0 := by
        rw [List.countP_eq_zero]
        intro item member
        rcases List.mem_cons.mp member with rfl | later
        · simp [found]
        · simp [none item later]
      rw [count]
      cases position with
      | zero => simp [found]
      | succ position => simp [none _ (List.getElem_mem _)]

/-- In ascending order the items with a property that larger items share are the last ones. -/
theorem upward_iff {sorted : List α} (ordered : sorted.Pairwise (· ≤ ·)) (holds : α → Bool)
    (upward : ∀ x y, x ≤ y → holds x = true → holds y = true) {position : Nat}
    (below : position < sorted.length) :
    holds sorted[position] = true ↔ sorted.length ≤ position + sorted.countP holds := by
  -- The items without the property are the first ones, and the others are what is left.
  have first := downward_iff ordered (fun item => !holds item) (fun x y order lacks => by
    cases found : holds x with
    | false => rfl
    | true => simp [upward x y order found] at lacks) below
  have total := List.length_eq_countP_add_countP (l := sorted) holds
  have others : sorted.countP (fun item => !holds item) = sorted.countP fun item => ¬ holds item := by
    simp
  rw [others] at first
  cases held : holds sorted[position] with
  | true =>
    rw [held] at first
    simp only [Bool.not_true, Bool.false_eq_true, false_iff, not_lt] at first
    simp only [true_iff]
    omega
  | false =>
    rw [held] at first
    simp only [Bool.not_false, true_iff] at first
    simp only [Bool.false_eq_true, false_iff]
    omega

/-- The item at a position of the ascending order exceeds a bound exactly when enough items do. -/
theorem lt_ascending_iff (bound : α) (items : List α) {position : Nat}
    (below : position < (ascending items).length) :
    bound < (ascending items)[position] ↔
      items.length ≤ position + items.countP fun item => bound < item := by
  -- Larger items exceed the bound too.
  have found := upward_iff (ascending_sorted items) (fun item => decide (bound < item))
    (fun x y order above => decide_eq_true ((of_decide_eq_true above).trans_le order)) below
  rw [decide_eq_true_eq, (ascending_perm items).countP_eq, length_ascending] at found
  exact found

/-- The item at a position of the ascending order reaches a bound exactly when enough items do. -/
theorem le_ascending_iff (bound : α) (items : List α) {position : Nat}
    (below : position < (ascending items).length) :
    bound ≤ (ascending items)[position] ↔
      items.length ≤ position + items.countP fun item => bound ≤ item := by
  -- Larger items reach the bound too.
  have found := upward_iff (ascending_sorted items) (fun item => decide (bound ≤ item))
    (fun x y order above => decide_eq_true ((of_decide_eq_true above).trans order)) below
  rw [decide_eq_true_eq, (ascending_perm items).countP_eq, length_ascending] at found
  exact found

/-- The item at a position of the ascending order is below a bound exactly when enough items are. -/
theorem ascending_lt_iff (bound : α) (items : List α) {position : Nat}
    (below : position < (ascending items).length) :
    (ascending items)[position] < bound ↔ position < items.countP fun item => item < bound := by
  -- Smaller items are below the bound too.
  have found := downward_iff (ascending_sorted items) (fun item => decide (item < bound))
    (fun x y order less => decide_eq_true (order.trans_lt (of_decide_eq_true less))) below
  rw [decide_eq_true_eq, (ascending_perm items).countP_eq] at found
  exact found

/-- Items further on in the ascending order are no smaller. -/
theorem ascending_mono (items : List α) {first second : Nat} (order : first ≤ second)
    (below : second < (ascending items).length) :
    (ascending items)[first] ≤ (ascending items)[second] := by
  -- Items at different places come in order, and an item is no smaller than itself.
  rcases order.lt_or_eq with less | rfl
  · exact List.pairwise_iff_getElem.mp (ascending_sorted items) _ _ _ _ less
  · exact le_rfl

end Absm
