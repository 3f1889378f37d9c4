import Mathlib.Algebra.Order.Field.Basic
import Mathlib.Tactic.Linarith
import Mathlib.Tactic.Ring

/-! Distances that shrink by a fixed amount beyond a limit, and by a factor within it. -/

namespace Absm

variable {K : Type} [Field K] [LinearOrder K]

/-- The next distance: less by a fixed amount beyond the limit, and by a factor within it. -/
def decay (limit drop factor distance : K) : K :=
  -- At the limit itself the distance shrinks by the factor.
  if limit < distance then distance - drop else factor * distance

section Bounds

variable [IsStrictOrderedRing K] {limit drop factor distance : K}

/-- A distance stays a distance when the fixed amount is within the limit. -/
theorem decay_nonneg (within : drop ≤ limit) (factor_nonneg : 0 ≤ factor) (nonneg : 0 ≤ distance) :
    0 ≤ decay limit drop factor distance := by
  -- Beyond the limit the drop takes less than there is, and else the factor keeps the sign.
  unfold decay
  split
  case isTrue beyond => linarith
  case isFalse => exact mul_nonneg factor_nonneg nonneg

/-- A distance never grows. -/
theorem decay_le (drop_nonneg : 0 ≤ drop) (factor_le : factor ≤ 1) (nonneg : 0 ≤ distance) :
    decay limit drop factor distance ≤ distance := by
  -- The drop is not negative, and the factor is at most one.
  unfold decay
  split
  case isTrue => linarith
  case isFalse => exact mul_le_of_le_one_left nonneg factor_le

omit [IsStrictOrderedRing K] in
/-- Within the limit a distance shrinks by the factor. -/
theorem decay_within (within : distance ≤ limit) :
    decay limit drop factor distance = factor * distance := if_neg (not_lt.mpr within)

/-- From within the limit a distance shrinks by the factor in every step. -/
theorem decay_iterate_within (factor_nonneg : 0 ≤ factor) (factor_le : factor ≤ 1)
    (nonneg : 0 ≤ distance) (within : distance ≤ limit) (steps : ℕ) :
    (decay limit drop factor)^[steps] distance = factor ^ steps * distance := by
  -- A smaller distance is within the limit too.
  induction steps generalizing distance with
  | zero => simp
  | succ steps ih =>
    have smaller : factor * distance ≤ distance := mul_le_of_le_one_left nonneg factor_le
    rw [Function.iterate_succ_apply, decay_within within,
      ih (mul_nonneg factor_nonneg nonneg) (smaller.trans within), pow_succ, mul_assoc]

/-- After some steps a distance is within the limit, or each of them has taken the fixed amount. -/
theorem decay_iterate_le (within : drop ≤ limit) (drop_nonneg : 0 ≤ drop) (factor_nonneg : 0 ≤ factor)
    (factor_le : factor ≤ 1) (nonneg : 0 ≤ distance) (steps : ℕ) :
    0 ≤ (decay limit drop factor)^[steps] distance ∧
      ((decay limit drop factor)^[steps] distance ≤ limit ∨
        (decay limit drop factor)^[steps] distance ≤ distance - steps * drop) := by
  induction steps with
  | zero => exact ⟨nonneg, .inr (by simp)⟩
  | succ steps ih =>
    rw [Function.iterate_succ_apply']
    generalize (decay limit drop factor)^[steps] distance = current at ih
    obtain ⟨current_nonneg, bound⟩ := ih
    refine ⟨decay_nonneg within factor_nonneg current_nonneg, ?_⟩
    -- What is within the limit stays there.
    rcases le_or_gt current limit with near | far
    · exact .inl ((decay_le drop_nonneg factor_le current_nonneg).trans near)
    · right
      rw [decay, if_pos far]
      rcases bound with near | less
      · exact absurd near (not_le.mpr far)
      · push_cast
        linarith

end Bounds
end Absm
