import Mathlib.Data.List.Basic

/-! The interleavings of two sequences of atomic steps. -/

namespace Absm

variable {α : Type}

/-- The third sequence contains the steps of the first two, each in their order. -/
inductive Shuffle : List α → List α → List α → Prop where
  /-- No steps are left. -/
  | nil : Shuffle [] [] []
  /-- The first sequence takes a step. -/
  | left {x : α} {first second steps : List α} (rest : Shuffle first second steps) :
      Shuffle (x :: first) second (x :: steps)
  /-- The second sequence takes a step. -/
  | right {x : α} {first second steps : List α} (rest : Shuffle first second steps) :
      Shuffle first (x :: second) (x :: steps)

/-- It does not matter which sequence is named first. -/
theorem Shuffle.symm {first second steps : List α} (shuffled : Shuffle first second steps) :
    Shuffle second first steps := by
  -- Left turns become right turns.
  induction shuffled with
  | nil => exact .nil
  | left _ ih => exact .right ih
  | right _ ih => exact .left ih

/-- Without steps of the first sequence those of the second one remain. -/
theorem Shuffle.nil_left {second steps : List α} (shuffled : Shuffle [] second steps) :
    steps = second := by
  -- No step can come from the empty side.
  induction second generalizing steps with
  | nil =>
    cases shuffled
    rfl
  | cons x second ih =>
    cases shuffled with
    | right rest => rw [ih rest]

/-- Without steps of the second sequence those of the first one remain. -/
theorem Shuffle.nil_right {first steps : List α} (shuffled : Shuffle first [] steps) :
    steps = first := by
  -- No step can come from the empty side.
  induction first generalizing steps with
  | nil =>
    cases shuffled
    rfl
  | cons x first ih =>
    cases shuffled with
    | left rest => rw [ih rest]

/-- Two sequences of two steps have six interleavings. -/
theorem shuffle_pairs {a b c d : α} {steps : List α} (shuffled : Shuffle [a, b] [c, d] steps) :
    steps = [a, b, c, d] ∨ steps = [c, d, a, b] ∨ steps = [a, c, b, d] ∨ steps = [a, c, d, b] ∨
      steps = [c, a, b, d] ∨ steps = [c, a, d, b] := by
  -- After two steps of one sequence the other one runs alone.
  cases shuffled with
  | left rest =>
    cases rest with
    | left rest => simp [rest.nil_left]
    | right rest =>
      cases rest with
      | left rest => simp [rest.nil_left]
      | right rest => simp [rest.nil_right]
  | right rest =>
    cases rest with
    | right rest => simp [rest.nil_right]
    | left rest =>
      cases rest with
      | left rest => simp [rest.nil_left]
      | right rest => simp [rest.nil_right]

end Absm
