import Absm.Foundation.Spread

/-! Summaries of samples, and what becomes of them when the numbers are scaled and shifted. -/

namespace Absm

open ExtFloat (variance sampleVariance)

section Exact

variable {K : Type} [Field K]

/-- The mean of exact numbers. -/
def mean (data : List K) : K :=
  -- Without data the quotient is zero.
  data.sum / data.length

-- Nothing is rounded, and nothing overflows.
instance [SquareRoot K] : Statistics K where
  -- The checks are those of the library, and the arithmetic is exact.
  ofCount count := count
  ofInt value := .ok value
  fmean data :=
    if data = [] then .error (.valueError "fmean requires at least one data point") else .ok (mean data)
  pstdev data :=
    if data = [] then .error (.valueError "pstdev requires at least one data point")
    else .ok (SquareRoot.sqrt (variance data))
  stdev data :=
    if data.length < 2 then .error (.valueError "stdev requires at least two data points")
    else .ok (SquareRoot.sqrt (sampleVariance data))

/-- Exact numbers have a mean if there is one of them. -/
theorem fmean_exact [SquareRoot K] {data : List K} (nonempty : data ≠ []) :
    Statistics.fmean data = .ok (mean data) :=
  -- The only check is for data points.
  if_neg nonempty

/-- Exact numbers have a deviation if there is one of them. -/
theorem pstdev_exact [SquareRoot K] {data : List K} (nonempty : data ≠ []) :
    Statistics.pstdev data = .ok (SquareRoot.sqrt (variance data)) :=
  -- The only check is for data points.
  if_neg nonempty

/-- Exact numbers have a sample deviation if there are two of them. -/
theorem stdev_exact [SquareRoot K] {data : List K} (several : 2 ≤ data.length) :
    Statistics.stdev data = .ok (SquareRoot.sqrt (sampleVariance data)) :=
  -- The only check is for two data points.
  if_neg (not_lt.mpr several)

/-- The sum of scaled and shifted numbers. -/
theorem sum_affine (a b : K) (data : List K) :
    (data.map fun x => a * x + b).sum = a * data.sum + data.length * b := by
  -- Each number adds its multiple and one shift.
  induction data with
  | nil => simp
  | cons x data ih =>
    simp only [List.map_cons, List.sum_cons, ih, List.length_cons]
    push_cast
    ring

end Exact

variable {K : Type} [Field K] [LinearOrder K] [IsStrictOrderedRing K]

/-! ### Scaled and shifted numbers -/

/-- The mean is scaled and shifted with the numbers. -/
theorem mean_affine (a b : K) {data : List K} (nonempty : data ≠ []) :
    mean (data.map fun x => a * x + b) = a * mean data + b := by
  -- So is the sum, with as many shifts as there are numbers.
  have size : (data.length : K) ≠ 0 := Nat.cast_ne_zero.mpr (mt List.length_eq_zero_iff.mp nonempty)
  rw [mean, mean, sum_affine, List.length_map]
  field_simp

/-- The squared distances from the mean are scaled by the square of the factor. -/
theorem squaredDistances_affine (a b : K) {data : List K} (nonempty : data ≠ []) :
    squaredDistances (data.map fun x => a * x + b) = a ^ 2 * squaredDistances data := by
  -- The shift moves the numbers and their mean alike.
  have each : ∀ x, (a * x + b - (a * mean data + b)) ^ 2 = a ^ 2 * (x - mean data) ^ 2 := by
    intro x
    ring
  have moved := mean_affine a b nonempty
  unfold mean at moved each
  rw [squaredDistances, moved, List.map_map, squaredDistances]
  simp only [Function.comp_def, each, List.sum_map_mul_left]

/-- The variance is scaled by the square of the factor. -/
theorem variance_affine (a b : K) {data : List K} (nonempty : data ≠ []) :
    variance (data.map fun x => a * x + b) = a ^ 2 * variance data := by
  -- The distances from the mean are scaled, and the shift drops out.
  rw [variance_eq_squaredDistances, squaredDistances_affine a b nonempty, List.length_map, mul_div_assoc,
    ← variance_eq_squaredDistances]

/-- The sample deviation is scaled by the size of the factor. -/
theorem sampleDeviation_affine [SquareRoot K] [LawfulSquareRoot K] (a b : K) {data : List K}
    (nonempty : data ≠ []) :
    SquareRoot.sqrt (sampleVariance (data.map fun x => a * x + b)) =
      |a| * SquareRoot.sqrt (sampleVariance data) := by
  -- The squared distances are scaled by the square of the factor, of which the root is taken.
  have others : (0 : K) ≤ (data.length : K) - 1 :=
    sub_nonneg.mpr (Nat.one_le_cast.mpr (List.length_pos_iff.mpr nonempty))
  show SquareRoot.sqrt (squaredDistances (data.map fun x => a * x + b) / _) =
    |a| * SquareRoot.sqrt (squaredDistances data / _)
  rw [squaredDistances_affine a b nonempty, List.length_map, mul_div_assoc,
    sqrt_sq_mul a (div_nonneg (squaredDistances_nonneg data) others)]

/-! ### Two values -/

/-- The mean of two values, each with its number of copies. -/
theorem mean_twoValues (x y : K) {first second : Nat} (some : 0 < first + second) :
    mean (List.replicate first x ++ List.replicate second y) =
      x + second * (y - x) / (first + second) := by
  -- Both copies are counted, and the quotient is written about the first value.
  have size : ((first : K) + second) ≠ 0 := by exact_mod_cast some.ne'
  show _ / _ = _
  simp only [List.sum_append, List.sum_replicate, nsmul_eq_mul, List.length_append,
    List.length_replicate, Nat.cast_add]
  field_simp
  ring

/-- The variance of two values, each with its number of copies. -/
theorem variance_twoValues (x y : K) {first second : Nat} (some : 0 < first + second) :
    variance (List.replicate first x ++ List.replicate second y) =
      first * second * (y - x) ^ 2 / (first + second) ^ 2 := by
  -- The variance is that of the squares less the square of the mean.
  have size : ((first : K) + second) ≠ 0 := by exact_mod_cast some.ne'
  have nonempty : List.replicate first x ++ List.replicate second y ≠ [] := by
    rw [← List.length_pos_iff, List.length_append, List.length_replicate, List.length_replicate]
    exact some
  rw [variance_eq nonempty]
  simp only [List.map_append, List.map_replicate, List.sum_append, List.sum_replicate, nsmul_eq_mul,
    List.length_append, List.length_replicate, Nat.cast_add]
  field_simp
  ring

/-- The mean of one value is the value. -/
theorem mean_replicate (x : K) {count : Nat} (some : 0 < count) :
    mean (List.replicate count x) = x := by
  -- All copies have the same value, which is their mean.
  have whole := mean_twoValues x x (show 0 < count + 0 from some)
  rwa [List.replicate_zero, List.append_nil, sub_self, mul_zero, zero_div, add_zero] at whole

/-- One value has no variance. -/
theorem variance_replicate (x : K) {count : Nat} (some : 0 < count) :
    variance (List.replicate count x) = 0 := by
  -- All copies have no distance from their mean.
  have spread := variance_twoValues x x (show 0 < count + 0 from some)
  rwa [List.replicate_zero, List.append_nil, sub_self, zero_pow two_ne_zero, mul_zero,
    zero_div] at spread

end Absm
