import Mathlib.Data.List.DropRight

/-! Windows that hold the newest of the items that have been put into them. -/

namespace Absm

variable {α β : Type}

/-- Append an item, and drop the oldest one if there are more than the bound then. -/
def slide (bound : Nat) (window : List α) (item : α) : List α :=
  -- The bound is checked after the item has been added.
  if bound < (window ++ [item]).length then (window ++ [item]).tail else window ++ [item]

/-- A window that keeps to its bound still does with one more item. -/
theorem length_slide_le {bound : Nat} {window : List α} (bounded : window.length ≤ bound) (item : α) :
    (slide bound window item).length ≤ bound := by
  -- At most one item is too many, and it is dropped.
  unfold slide
  split <;> simp only [List.length_tail, List.length_append, List.length_singleton] at * <;> omega

/-- An item that is put into the newest of some items leaves the newest of all of them. -/
theorem slide_rtake (bound : Nat) (items : List α) (item : α) :
    slide bound (items.rtake bound) item = (items ++ [item]).rtake bound := by
  cases bound with
  | zero => simp [slide]
  | succ bound =>
    rw [List.rtake_concat_succ, slide]
    -- The oldest item goes exactly when the window has been full.
    by_cases full : bound + 1 ≤ items.length
    · have excess : bound + 1 < (items.rtake (bound + 1) ++ [item]).length := by
        simp only [List.rtake, List.length_append, List.length_drop, List.length_singleton]
        omega
      have nonempty : items.rtake (bound + 1) ≠ [] := by
        rw [← List.length_pos_iff, List.rtake, List.length_drop]
        omega
      have rest : items.length - (bound + 1) + 1 = items.length - bound := by omega
      rw [if_pos excess, List.tail_append_of_ne_nil nonempty, List.rtake, List.rtake, List.tail_drop, rest]
    · have all : items.rtake (bound + 1) = items ∧ items.rtake bound = items := by
        simp only [List.rtake]
        rw [Nat.sub_eq_zero_of_le (by omega), Nat.sub_eq_zero_of_le (by omega), List.drop_zero]
        exact ⟨rfl, rfl⟩
      rw [all.1, all.2, if_neg]
      simp only [List.length_append, List.length_singleton]
      omega

/-- The newest of enough copies of one item and some of another one. -/
theorem rtake_replicate_append {bound copies count : Nat} (enough : bound ≤ copies)
    (fits : count ≤ bound) (first second : α) :
    (List.replicate copies first ++ List.replicate count second).rtake bound =
      List.replicate (bound - count) first ++ List.replicate count second := by
  -- What is dropped are copies of the first item.
  have dropped : copies + count - bound ≤ copies := by omega
  rw [List.rtake, List.length_append, List.length_replicate, List.length_replicate,
    List.drop_append_of_le_length (by rwa [List.length_replicate]), List.drop_replicate]
  congr 2
  omega

/-- The newest copies of an item are copies of the item. -/
theorem rtake_replicate (bound copies : Nat) (item : α) :
    (List.replicate copies item).rtake bound =
      List.replicate (copies - (copies - bound)) item := by
  -- Any of the copies that are left is the item.
  rw [List.rtake, List.length_replicate, List.drop_replicate]

/-- A window of what is made of items is made of a window of the items. -/
theorem slide_map (f : α → β) (bound : Nat) (window : List α) (item : α) :
    slide bound (window.map f) (f item) = (slide bound window item).map f := by
  -- Dropping looks at the length only.
  unfold slide
  rw [← List.map_singleton, ← List.map_append, List.length_map, apply_ite (List.map f), List.map_tail]

end Absm
