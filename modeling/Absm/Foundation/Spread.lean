import Mathlib.Algebra.Order.BigOperators.Group.List
import Mathlib.Analysis.Real.Sqrt
import Mathlib.Tactic.FieldSimp
import Mathlib.Tactic.Linarith
import Mathlib.Tactic.Positivity
import Mathlib.Tactic.Ring
import Absm.Foundation.ExtFloat

/-! How far the mean and the deviation of exact numbers lie from the numbers. -/

namespace Absm

/-- Square roots that are what their name says, on numbers that have one. -/
class LawfulSquareRoot (K : Type) [Field K] [LinearOrder K] [SquareRoot K] : Prop where
  /-- A square root is not negative. -/
  sqrt_nonneg (x : K) : 0 ≤ SquareRoot.sqrt x
  /-- The square of a square root is the number itself. -/
  sq_sqrt {x : K} (nonneg : 0 ≤ x) : SquareRoot.sqrt x ^ 2 = x

noncomputable instance : SquareRoot ℝ := ⟨Real.sqrt⟩

instance : LawfulSquareRoot ℝ := ⟨Real.sqrt_nonneg, Real.sq_sqrt⟩

section Numbers

variable {K : Type} [Field K] [LinearOrder K] [IsStrictOrderedRing K]

/-- The built-in `abs` is the absolute value. -/
theorem absolute_eq (x : K) : absolute x = |x| := by
  -- The sign decides on both sides.
  have zero : (0.0 : K) = 0 := by norm_num
  rw [absolute, zero]
  split
  case isTrue negative => rw [abs_of_neg negative]
  case isFalse nonneg => rw [abs_of_nonneg (not_lt.mp nonneg)]

variable [SquareRoot K] [LawfulSquareRoot K]

omit [IsStrictOrderedRing K] in
/-- The square root of zero is zero. -/
theorem sqrt_zero : SquareRoot.sqrt (0 : K) = 0 :=
  -- The square of the root is zero.
  pow_eq_zero_iff two_ne_zero |>.mp (LawfulSquareRoot.sq_sqrt le_rfl)

/-- A square comes out of a square root as an absolute value. -/
theorem sqrt_sq_mul (a : K) {x : K} (nonneg : 0 ≤ x) :
    SquareRoot.sqrt (a ^ 2 * x) = |a| * SquareRoot.sqrt x := by
  -- Neither side is negative, and their squares are equal.
  have left := LawfulSquareRoot.sqrt_nonneg (a ^ 2 * x)
  have right := mul_nonneg (abs_nonneg a) (LawfulSquareRoot.sqrt_nonneg x)
  rw [← sq_eq_sq₀ left right, LawfulSquareRoot.sq_sqrt (mul_nonneg (sq_nonneg a) nonneg), mul_pow,
    sq_abs, LawfulSquareRoot.sq_sqrt nonneg]

/-- A number that is not negative exceeds a square root exactly when its square exceeds the number. -/
theorem sqrt_lt_iff {x y : K} (nonneg : 0 ≤ x) (positive : 0 ≤ y) :
    SquareRoot.sqrt x < y ↔ x < y ^ 2 := by
  -- Squares keep the order of what is not negative.
  rw [← pow_lt_pow_iff_left₀ (LawfulSquareRoot.sqrt_nonneg x) positive two_ne_zero,
    LawfulSquareRoot.sq_sqrt nonneg]

end Numbers

open ExtFloat

variable {K : Type} [Field K]

/-- The squared distances from the mean, added up. -/
def squaredDistances (data : List K) : K :=
  -- The distances are those from the mean.
  (data.map fun x => (x - data.sum / data.length) ^ 2).sum

/-- The variance is the mean squared distance from the mean. -/
theorem variance_eq_squaredDistances (data : List K) :
    variance data = squaredDistances data / data.length :=
  -- The variance is their mean.
  rfl

/-- The squared distances of some numbers from a point, from their sum and the sum of their squares. -/
theorem sum_sq_about (data : List K) (point : K) :
    (data.map fun x => (x - point) ^ 2).sum =
      (data.map (· ^ 2)).sum - 2 * point * data.sum + data.length * point ^ 2 := by
  -- Each number adds its own square, expanded about the point.
  induction data with
  | nil => simp
  | cons x data ih =>
    simp only [List.map_cons, List.sum_cons, ih, List.length_cons]
    push_cast
    ring

variable [LinearOrder K] [IsStrictOrderedRing K]

/-- There is a positive number of items in a list that is not empty. -/
private theorem length_pos_cast {data : List K} (nonempty : data ≠ []) : (0 : K) < data.length :=
  -- The list has an item.
  Nat.cast_pos.mpr (List.length_pos_iff.mpr nonempty)

/-- The mean lies between the bounds of the numbers. -/
theorem mean_between {data : List K} (nonempty : data ≠ []) {low high : K}
    (between : ∀ x ∈ data, low ≤ x ∧ x ≤ high) :
    low ≤ data.sum / data.length ∧ data.sum / data.length ≤ high := by
  -- The sum of the numbers lies between the sums of the bounds.
  have size := length_pos_cast nonempty
  have lower := data.card_nsmul_le_sum low fun x member => (between x member).1
  have upper := data.sum_le_card_nsmul high fun x member => (between x member).2
  rw [nsmul_eq_mul] at lower upper
  rw [le_div_iff₀ size, div_le_iff₀ size]
  constructor
  · rw [mul_comm]
    exact lower
  · rw [mul_comm high]
    exact upper

/-- The variance is the mean of the squares less the square of the mean. -/
theorem variance_eq {data : List K} (nonempty : data ≠ []) :
    variance data =
      (data.map (· ^ 2)).sum / data.length - (data.sum / data.length) ^ 2 := by
  -- The squares about the mean are expanded, with the mean as the quotient of sum and length.
  have size := (length_pos_cast nonempty).ne'
  rw [variance, sum_sq_about]
  field_simp
  ring

/-- Lists of one length and one sum have the same variance exactly when their squares have one sum. -/
theorem variance_eq_iff {data other : List K} (nonempty : data ≠ [])
    (length : data.length = other.length) (sum : data.sum = other.sum) :
    variance data = variance other ↔ (data.map (· ^ 2)).sum = (other.map (· ^ 2)).sum := by
  -- With sum and length fixed, the variance is the sum of the squares up to scale and shift.
  have size := (length_pos_cast nonempty).ne'
  have otherNonempty : other ≠ [] := by
    rw [← List.length_pos_iff, ← length]
    exact List.length_pos_iff.mpr nonempty
  rw [variance_eq nonempty, variance_eq otherNonempty, ← length, sum, sub_left_inj, div_left_inj' size]

/-- Squared distances are not negative. -/
theorem squaredDistances_nonneg (data : List K) : 0 ≤ squaredDistances data := by
  -- Squares are not negative.
  refine List.sum_nonneg fun square member => ?_
  obtain ⟨x, -, rfl⟩ := List.mem_map.mp member
  exact sq_nonneg _

/-- The squared distances from the mean, from the sum of the squares and the sum. -/
theorem length_mul_squaredDistances {data : List K} (nonempty : data ≠ []) :
    data.length * squaredDistances data = data.length * (data.map (· ^ 2)).sum - data.sum ^ 2 := by
  -- The squares are multiplied out around the mean.
  have size := (length_pos_cast nonempty).ne'
  rw [squaredDistances, sum_sq_about]
  field_simp
  ring

/-- The square of a sum is at most the number of its terms times the sum of their squares. -/
theorem sq_sum_le (data : List K) : data.sum ^ 2 ≤ data.length * (data.map (· ^ 2)).sum := by
  -- Their distances from the mean have no negative sum of squares.
  rcases eq_or_ne data [] with rfl | nonempty
  · simp
  · have spread := length_mul_squaredDistances nonempty
    have nonneg := mul_nonneg (length_pos_cast nonempty).le (squaredDistances_nonneg data)
    linarith

/-- No number is further from the mean than all the others together allow. -/
theorem sq_distance_le {data : List K} {x : K} (member : x ∈ data) :
    data.length * (x - data.sum / data.length) ^ 2 ≤ ((data.length : K) - 1) * squaredDistances data := by
  -- The distances of the others add up to its own distance, and their squares to what is left.
  obtain ⟨others, perm⟩ : ∃ others, data.Perm (x :: others) := ⟨_, List.perm_cons_erase member⟩
  have size := length_pos_cast (List.ne_nil_of_mem member)
  have count : (data.length : K) = others.length + 1 := by
    rw [perm.length_eq, List.length_cons, Nat.cast_succ]
  generalize middle : data.sum / data.length = mean
  have sum : x + others.sum = data.length * mean := by
    rw [← middle, mul_div_cancel₀ _ size.ne', ← List.sum_cons, perm.sum_eq]
  have squares : squaredDistances data = (x - mean) ^ 2 + (others.map fun y => (y - mean) ^ 2).sum := by
    rw [squaredDistances, middle, (perm.map _).sum_eq, List.map_cons, List.sum_cons]
  have own : x - mean = others.length * mean - others.sum := by
    rw [count] at sum
    linarith
  have apart := sq_sum_le others
  rw [squares, sum_sq_about, count, own]
  linarith

/-- A variance is not negative. -/
theorem variance_nonneg (data : List K) : 0 ≤ variance data :=
  -- Sum and number are not negative.
  div_nonneg (squaredDistances_nonneg data) (Nat.cast_nonneg _)

/-- The variance is at most the square of half the distance between the bounds of the numbers. -/
theorem variance_le {data : List K} (nonempty : data ≠ []) {low high : K}
    (between : ∀ x ∈ data, low ≤ x ∧ x ≤ high) : variance data ≤ ((high - low) / 2) ^ 2 := by
  -- No number is further from the middle than the bounds are.
  have apart : (data.map fun x => (x - (low + high) / 2) ^ 2).sum ≤
      (data.map fun x => (x - (low + high) / 2) ^ 2).length • ((high - low) / 2) ^ 2 := by
    refine List.sum_le_card_nsmul _ _ fun square member => ?_
    obtain ⟨x, inside, rfl⟩ := List.mem_map.mp member
    obtain ⟨lower, upper⟩ := between x inside
    exact sq_le_sq' (by linarith) (by linarith)
  -- About the mean the squared distances are the smallest.
  have closest : variance data ≤ (data.map fun x => (x - (low + high) / 2) ^ 2).sum / data.length := by
    have size := length_pos_cast nonempty
    have gap : (data.map fun x => (x - (low + high) / 2) ^ 2).sum / data.length - variance data =
        (data.sum / data.length - (low + high) / 2) ^ 2 := by
      rw [variance_eq nonempty, sum_sq_about]
      field_simp
      ring
    have nonneg := sq_nonneg (data.sum / data.length - (low + high) / 2)
    linarith
  refine closest.trans ?_
  rw [div_le_iff₀ (length_pos_cast nonempty), mul_comm]
  rw [List.length_map, nsmul_eq_mul] at apart
  exact apart

variable [SquareRoot K] [LawfulSquareRoot K]

/-- The deviation is at most half the distance between the bounds of the numbers. -/
theorem deviation_le {data : List K} (nonempty : data ≠ []) {low high : K}
    (between : ∀ x ∈ data, low ≤ x ∧ x ≤ high) :
    SquareRoot.sqrt (variance data) ≤ (high - low) / 2 := by
  -- It is enough to compare the squares.
  obtain ⟨x, member⟩ := List.exists_mem_of_ne_nil data nonempty
  obtain ⟨lower, upper⟩ := between x member
  refine le_of_sq_le_sq ?_ (by linarith)
  rw [LawfulSquareRoot.sq_sqrt (variance_nonneg data)]
  exact variance_le nonempty between

/-- Variances are equal when the deviations are. -/
theorem variance_of_deviation {data other : List K}
    (same : SquareRoot.sqrt (variance data) = SquareRoot.sqrt (variance other)) :
    variance data = variance other := by
  -- The variance is the square of the deviation.
  rw [← LawfulSquareRoot.sq_sqrt (variance_nonneg data), same,
    LawfulSquareRoot.sq_sqrt (variance_nonneg other)]

end Absm
