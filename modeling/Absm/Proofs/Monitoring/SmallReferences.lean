import Absm.Monitoring.DataDrift

/-! How many reference values it takes before values among them can count as drift. -/

namespace Absm

variable {K : Type} [Field K] [LinearOrder K] [IsStrictOrderedRing K] [SquareRoot K]

/-- Some values lie between the least and the greatest one of a reference sample. -/
def Within (reference current : List K) : Prop :=
  -- Between two values of the reference, both included.
  ∃ low ∈ reference, ∃ high ∈ reference, ∀ x ∈ current, low ≤ x ∧ x ≤ high

variable [LawfulSquareRoot K]

/-- Drift is found exactly if the means are too far apart for the squared distances in the reference. -/
theorem drifted_iff_squaredDistances {current reference : List K} {featureName : String}
    {result : DriftResult K} (accepted : detectFeatureDrift current reference featureName = .ok result) :
    current ≠ [] ∧ 2 ≤ reference.length ∧
      (result.drifted = true ↔ 4 * squaredDistances reference < ((reference.length : K) - 1) *
        (current.sum / current.length - reference.sum / reference.length) ^ 2) := by
  obtain ⟨filled, several, rfl⟩ := detectFeatureDrift_eq_ok.mp accepted
  have others : (0 : K) < (reference.length : K) - 1 :=
    sub_pos.mpr (Nat.one_lt_cast.mpr (by omega))
  have spread := div_nonneg (squaredDistances_nonneg reference) others.le
  refine ⟨filled, several, ?_⟩
  -- Twice the root stays below the distance if the root stays below half of it.
  have half (root distance : K) : 2.0 * root < distance ↔ root < distance / 2 := by
    rw [lt_div_iff₀ two_pos, mul_comm root]
    norm_num
  rw [decide_eq_true_iff, absolute_eq, half]
  refine (sqrt_lt_iff spread (by positivity)).trans ?_
  rw [div_pow, sq_abs, div_lt_iff₀ others]
  change _ < (current.sum / current.length - reference.sum / reference.length) ^ 2 / 2 ^ 2 * _ ↔ _
  constructor <;> intro less <;> linarith

omit [SquareRoot K] [LawfulSquareRoot K] in
/-- The mean of values among the reference is no further from its mean than one of its values can be. -/
theorem sq_means_le {reference current : List K} (within : Within reference current) (filled : current ≠ []) :
    reference.length * (current.sum / current.length - reference.sum / reference.length) ^ 2 ≤
      ((reference.length : K) - 1) * squaredDistances reference := by
  obtain ⟨low, lowMember, high, highMember, between⟩ := within
  obtain ⟨lower, upper⟩ := mean_between filled between
  generalize current.sum / current.length = mean at lower upper
  have size : (0 : K) ≤ reference.length := Nat.cast_nonneg _
  -- The mean lies on the side of one of the two bounds.
  rcases le_total (reference.sum / reference.length) mean with above | below
  · refine le_trans (mul_le_mul_of_nonneg_left ?_ size) (sq_distance_le highMember)
    exact pow_le_pow_left₀ (by linarith) (by linarith) 2
  · refine le_trans (mul_le_mul_of_nonneg_left ?_ size) (sq_distance_le lowMember)
    rw [← neg_sq, ← neg_sq (low - _)]
    exact pow_le_pow_left₀ (by linarith) (by linarith) 2

omit [SquareRoot K] [LawfulSquareRoot K] in
/-- A value that differs from all the others by one. -/
theorem squaredDistances_lone (others : Nat) :
    ((others : K) + 1) * squaredDistances (1 :: List.replicate others (0 : K)) = others := by
  -- The sum of the squares is one, and so is the sum.
  have spread := length_mul_squaredDistances (K := K) (List.cons_ne_nil 1 (List.replicate others 0))
  simp only [List.length_cons, List.length_replicate, List.map_cons, List.map_replicate, List.sum_cons,
    List.sum_replicate, nsmul_eq_mul, Nat.cast_succ] at spread
  rw [spread]
  ring

/-- With at most five reference values, nothing among them counts as drift; with more, something does. -/
theorem drifted_within_iff (count : Nat) :
    (∀ (reference current : List K) (featureName : String) (result : DriftResult K),
      reference.length = count → Within reference current →
        detectFeatureDrift current reference featureName = .ok result → result.drifted = false) ↔
      count ≤ 5 := by
  constructor
  · intro quiet
    by_contra many
    obtain ⟨others, rfl⟩ : ∃ others, count = others + 1 := ⟨count - 1, by omega⟩
    -- One value differs from all the others, and it is compared with them and itself.
    have several : 2 ≤ (1 :: List.replicate others (0 : K)).length := by
      rw [List.length_cons, List.length_replicate]
      omega
    obtain ⟨result, accepted⟩ : ∃ result, detectFeatureDrift [1] (1 :: List.replicate others (0 : K))
        "bytes_out" = .ok result :=
      ⟨_, detectFeatureDrift_eq_ok.mpr ⟨List.cons_ne_nil 1 ([] : List K), several, rfl⟩⟩
    have still := quiet _ _ _ _ (by simp) ⟨1, by simp, 1, by simp, by simp⟩ accepted
    obtain ⟨-, -, drifted⟩ := drifted_iff_squaredDistances accepted
    rw [Bool.eq_false_iff, ne_eq, drifted, not_lt] at still
    have spread := squaredDistances_lone (K := K) others
    have long : (5 : K) ≤ others := Nat.ofNat_le_cast.mpr (by omega)
    simp only [List.length_cons, List.length_replicate, List.length_nil, List.sum_cons, List.sum_nil,
      List.sum_replicate, nsmul_eq_mul, Nat.cast_succ] at still
    generalize (others : K) = n at *
    generalize squaredDistances (1 :: List.replicate others (0 : K)) = distances at *
    have positive : 0 < n + 1 := by linarith
    have distance : (1 + 0) / ((0 : Nat) + 1 : K) - (1 + n * 0) / (n + 1) = n / (n + 1) := by
      rw [Nat.cast_zero]
      field_simp
      ring
    rw [distance, add_sub_cancel_right, div_pow, mul_div_assoc', div_le_iff₀ (by positivity)] at still
    have bound : n * n ^ 2 ≤ n * (4 * (n + 1)) :=
      calc n * n ^ 2 ≤ 4 * distances * (n + 1) ^ 2 := still
        _ = 4 * ((n + 1) * distances) * (n + 1) := by ring
        _ = n * (4 * (n + 1)) := by rw [spread]; ring
    have short := le_of_mul_le_mul_left bound (by linarith)
    nlinarith
  · intro few reference current featureName result size within accepted
    obtain ⟨filled, several, drifted⟩ := drifted_iff_squaredDistances accepted
    rw [Bool.eq_false_iff, ne_eq, drifted, not_lt]
    have apart := sq_means_le within filled
    have spread := squaredDistances_nonneg reference
    have low : (2 : K) ≤ reference.length := Nat.ofNat_le_cast.mpr several
    have high : (reference.length : K) ≤ 5 := by
      rw [size]
      exact Nat.cast_le_ofNat.mpr few
    generalize (reference.length : K) = n at *
    generalize (current.sum / current.length - reference.sum / n) ^ 2 = square at *
    -- The factor between distance and spread is four at most.
    have factor : (n - 1) ^ 2 ≤ 4 * n := by nlinarith
    refine le_of_mul_le_mul_left ?_ (show 0 < n by linarith)
    calc n * ((n - 1) * square) = (n - 1) * (n * square) := by ring
      _ ≤ (n - 1) * ((n - 1) * squaredDistances reference) := mul_le_mul_of_nonneg_left apart (by linarith)
      _ = (n - 1) ^ 2 * squaredDistances reference := by ring
      _ ≤ 4 * n * squaredDistances reference := mul_le_mul_of_nonneg_right factor spread
      _ = n * (4 * squaredDistances reference) := by ring

/-- Of five real numbers, nothing among them counts as drift. -/
theorem drifted_within_iff_five :
    (∀ (reference current : List ℝ) (featureName : String) (result : DriftResult ℝ),
      reference.length = 5 → Within reference current →
        detectFeatureDrift current reference featureName = .ok result → result.drifted = false) ↔ 5 ≤ 5 :=
  -- Five values are just enough.
  drifted_within_iff 5

end Absm
