import Absm.Foundation.Samples

/-! Mean and variance of numbers that follow each other at equal distances. -/

namespace Absm

open ExtFloat (variance)

/-- The first natural numbers. -/
def firstNumbers (K : Type) [NatCast K] (count : Nat) : List K :=
  -- They begin with zero.
  (List.range count).map Nat.cast

@[simp] theorem length_firstNumbers (K : Type) [NatCast K] (count : Nat) :
    (firstNumbers K count).length = count := by
  -- There is one number for each position.
  simp [firstNumbers]

/-- One more number comes last. -/
theorem firstNumbers_succ (K : Type) [NatCast K] (count : Nat) :
    firstNumbers K (count + 1) = firstNumbers K count ++ [(count : K)] := by
  -- The number that is added is the count before.
  simp [firstNumbers, List.range_succ]

/-- The newest of the first numbers are the first numbers again, shifted. -/
theorem drop_firstNumbers (K : Type) [AddMonoidWithOne K] (dropped count : Nat) :
    (firstNumbers K count).drop dropped = (firstNumbers K (count - dropped)).map ((dropped : K) + ·) := by
  -- A number is found at its own position.
  refine List.ext_getElem (by simp) fun i here there => ?_
  simp [firstNumbers]

/-- The oldest of the first numbers are the first numbers again. -/
theorem take_firstNumbers (K : Type) [NatCast K] {taken count : Nat} (fits : taken ≤ count) :
    (firstNumbers K count).take taken = firstNumbers K taken := by
  -- The first ones of the first ones are the first ones.
  rw [firstNumbers, ← List.map_take, List.take_range, Nat.min_eq_left fits, firstNumbers]

variable {K : Type} [Field K]

/-- The sum of the first numbers, twice. -/
theorem sum_firstNumbers (count : Nat) :
    2 * (firstNumbers K count).sum = count * (count - 1) := by
  induction count with
  | zero => simp [firstNumbers]
  | succ count ih =>
    -- The last number is added twice.
    rw [firstNumbers_succ, List.sum_append, List.sum_singleton, mul_add, ih]
    push_cast
    ring

/-- The sum of the first squares, six times. -/
theorem sum_sq_firstNumbers (count : Nat) :
    (6 : K) * ((firstNumbers K count).map (· ^ 2)).sum = count * (count - 1) * (2 * count - 1) := by
  -- The last square is added six times.
  induction count with
  | zero => simp [firstNumbers]
  | succ count ih =>
    rw [firstNumbers_succ, List.map_append, List.sum_append, mul_add, ih]
    simp only [List.map_cons, List.map_nil, List.sum_singleton]
    push_cast
    ring

variable [LinearOrder K] [IsStrictOrderedRing K]

/-- The mean of the first numbers lies in their middle. -/
theorem mean_firstNumbers {count : Nat} (some : 0 < count) :
    2 * mean (firstNumbers K count) = count - 1 := by
  -- Half of the sum of the least and the greatest is their mean.
  have size : (count : K) ≠ 0 := Nat.cast_ne_zero.mpr some.ne'
  have total := sum_firstNumbers (K := K) count
  show 2 * ((firstNumbers K count).sum / (firstNumbers K count).length) = _
  rw [length_firstNumbers, ← mul_div_assoc, total, mul_div_cancel_left₀ _ size]

/-- The variance of the first numbers grows with the square of their number. -/
theorem variance_firstNumbers {count : Nat} (some : 0 < count) :
    12 * variance (firstNumbers K count) = (count : K) ^ 2 - 1 := by
  have size : (count : K) ≠ 0 := Nat.cast_ne_zero.mpr some.ne'
  have nonempty : firstNumbers K count ≠ [] := by
    rw [← List.length_pos_iff, length_firstNumbers]
    exact some
  -- The variance is that of the squares less the square of the mean.
  have sum : (firstNumbers K count).sum = count * (count - 1) / 2 := by
    rw [← sum_firstNumbers, mul_div_cancel_left₀ _ two_ne_zero]
  have squares : ((firstNumbers K count).map (· ^ 2)).sum =
      (count * (count - 1) * (2 * count - 1) / 6 : K) := by
    rw [← sum_sq_firstNumbers, mul_div_cancel_left₀ _ (by norm_num)]
  rw [variance_eq nonempty, sum, squares, length_firstNumbers]
  field_simp
  ring

end Absm
