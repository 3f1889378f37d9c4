import Mathlib.Analysis.Real.Sqrt
import Absm.Monitoring.DataDrift
import Absm.Proofs.Drift.Forgetting

/-! Both drift checks find the same in any unit of measurement. -/

namespace Absm

open ExtFloat (variance sampleVariance)

variable {K : Type} [Field K] [LinearOrder K] [IsStrictOrderedRing K] [SquareRoot K]
  [LawfulSquareRoot K]

/-! ### Windows -/

/-- A window drifts when it is long enough and the squared distance of the halves' means exceeds the
variance, which is not zero. -/
def Drifts (window : List K) : Prop :=
  -- All three conditions are about whole samples or squares, so no root is needed.
  10 ≤ window.length ∧ variance window ≠ 0 ∧ variance window <
    (mean (window.take (window.length / 2)) - mean (window.drop (window.length / 2))) ^ 2
  deriving Decidable

/-- Over exact numbers nothing is raised, and the answer is whether the window drifts. -/
theorem drifted_eq (window : List K) : ADWINDetector.drifted window = .ok (decide (Drifts window)) := by
  have zero : (0.0 : K) = 0 := by norm_num
  have nonneg := variance_nonneg window
  have spreadless : SquareRoot.sqrt (variance window) = 0 ↔ variance window = 0 := by
    rw [← pow_eq_zero_iff two_ne_zero, LawfulSquareRoot.sq_sqrt nonneg]
  have exceeded : ∀ distance : K, SquareRoot.sqrt (variance window) < |distance| ↔
      variance window < distance ^ 2 := by
    intro distance
    rw [sqrt_lt_iff nonneg (abs_nonneg _), sq_abs]
  by_cases short : window.length < 10
  · rw [ADWINDetector.drifted, if_pos short, decide_eq_false fun drifts => absurd drifts.1 (not_le.mpr short)]
  · -- A window that is long enough has long enough halves, which have means.
    have halves : ¬ ((window.take (window.length / 2)).length < 5 ∨
        (window.drop (window.length / 2)).length < 5) := by
      rw [List.length_take, List.length_drop]
      omega
    have left : window.take (window.length / 2) ≠ [] := by
      rw [← List.length_pos_iff]
      omega
    have right : window.drop (window.length / 2) ≠ [] := by
      rw [← List.length_pos_iff]
      omega
    have whole : window ≠ [] := by
      rw [← List.length_pos_iff]
      omega
    rw [ADWINDetector.drifted, if_neg short]
    simp only [if_neg halves, fmean_exact left, fmean_exact right, pstdev_exact whole, ok_bind, zero,
      absolute_eq, beq_iff_eq, spreadless, exceeded, Drifts, not_lt.mp short, true_and, pure_eq_ok]
    split
    case isTrue none => simp [none]
    case isFalse some => simp [some]

/-- A window drifts or does not. -/
theorem drifted_eq_true_iff (window : List K) :
    ADWINDetector.drifted window = .ok true ↔ Drifts window := by
  -- The answer is the decision of the condition.
  rw [drifted_eq, Except.ok.injEq, decide_eq_true_iff]

/-- A window does not drift or does. -/
theorem drifted_eq_false_iff (window : List K) :
    ADWINDetector.drifted window = .ok false ↔ ¬ Drifts window := by
  -- The answer is the decision of the condition.
  rw [drifted_eq, Except.ok.injEq, decide_eq_false_iff_not]

omit [SquareRoot K] [LawfulSquareRoot K] in
/-- A window drifts in one unit exactly when it drifts in another. -/
theorem drifts_affine {a : K} (nonzero : a ≠ 0) (b : K) (window : List K) :
    Drifts (window.map fun x => a * x + b) ↔ Drifts window := by
  unfold Drifts
  rw [List.length_map]
  refine and_congr_right fun long => ?_
  have whole : window ≠ [] := by
    rw [← List.length_pos_iff]
    omega
  have left : window.take (window.length / 2) ≠ [] := by
    rw [← List.length_pos_iff, List.length_take]
    omega
  have right : window.drop (window.length / 2) ≠ [] := by
    rw [← List.length_pos_iff, List.length_drop]
    omega
  -- The shift cancels in the difference, and the square of the factor stands on both sides.
  have distance : ∀ x y : K, (a * x + b - (a * y + b)) ^ 2 = a ^ 2 * (x - y) ^ 2 := by
    intro x y
    ring
  have positive : 0 < a ^ 2 := by positivity
  rw [← List.map_take, ← List.map_drop, variance_affine a b whole, mean_affine a b left,
    mean_affine a b right, distance, mul_lt_mul_iff_right₀ positive, mul_ne_zero_iff]
  exact and_congr_left' (and_iff_right positive.ne')

/-- The answer about a window is the same in another unit. -/
theorem drifted_affine {a : K} (nonzero : a ≠ 0) (b : K) (window : List K) :
    ADWINDetector.drifted (window.map fun x => a * x + b) = ADWINDetector.drifted window := by
  -- The condition does not depend on the unit.
  rw [drifted_eq, drifted_eq, decide_eq_decide.mpr (drifts_affine nonzero b window)]

/-! ### Runs -/

/-- The call with its observation in another unit. -/
def DetectorCall.inUnit (a b : K) : DetectorCall K → DetectorCall K
  -- Only the values that are fed have a unit.
  | .addElement value => .addElement (a * value + b)
  | .reset => .reset

/-- A detector whose window is that of another one in another unit. -/
structure ADWINDetector.InUnit (a b : K) (detector other : ADWINDetector K) : Prop where
  /-- The windows have the same bound. -/
  bound : other.maxWindow = detector.maxWindow
  /-- The observations are the same in another unit. -/
  window : other.window = detector.window.map fun x => a * x + b

/-- A call is answered alike in both units. -/
theorem DetectorCall.apply_inUnit {a : K} (nonzero : a ≠ 0) (b : K) (detector other : ADWINDetector K)
    (call : DetectorCall K) (alike : detector.InUnit a b other) :
    (call.apply detector).1 = ((call.inUnit a b).apply other).1 ∧
      (call.apply detector).2.InUnit a b ((call.inUnit a b).apply other).2 := by
  -- The window in the other unit is the window of the converted observations.
  cases call with
  | addElement value =>
    have window : slide other.maxWindow other.window (a * value + b) =
        (slide detector.maxWindow detector.window value).map fun x => a * x + b := by
      rw [alike.bound, alike.window, slide_map fun x => a * x + b]
    refine ⟨congrArg (Except.map some) ?_, alike.bound, window⟩
    show ADWINDetector.drifted _ = ADWINDetector.drifted (slide _ _ _)
    rw [window, drifted_affine nonzero]
    rfl
  | reset => exact ⟨rfl, alike.bound, rfl⟩

/-! ### Samples -/

/-- A comparison in another unit finds the same drift, with the deviation in that unit. -/
theorem detectFeatureDrift_affine {a : K} (nonzero : a ≠ 0) (b : K) {current reference : List K}
    {featureName : String} {result : DriftResult K}
    (accepted : detectFeatureDrift current reference featureName = .ok result) :
    detectFeatureDrift (current.map fun x => a * x + b) (reference.map fun x => a * x + b) featureName =
      .ok { result with deviation := |a| * result.deviation } := by
  -- The samples pass the same checks; then deviation and threshold are scaled alike.
  obtain ⟨filled, several, rfl⟩ := detectFeatureDrift_eq_ok.mp accepted
  have referenceFilled : reference ≠ [] := by
    rintro rfl
    simp at several
  refine detectFeatureDrift_eq_ok.mpr ⟨by simpa using filled, by simpa using several, ?_⟩
  have distance : ∀ x y : K, |a * x + b - (a * y + b)| = |a| * |x - y| := by
    intro x y
    rw [← abs_mul]
    ring_nf
  have threshold : ∀ x : K, 2.0 * (|a| * x) = |a| * (2.0 * x) := fun x => mul_left_comm _ _ _
  simp only [absolute_eq, mean_affine a b filled, mean_affine a b referenceFilled,
    sampleDeviation_affine a b referenceFilled, distance, threshold, mul_lt_mul_iff_right₀ (abs_pos.mpr nonzero)]

/-- In another unit a detector answers every run of calls as it does in the original one, and a comparison
finds the same drift with the deviation in that unit. -/
theorem driftDecisions_unitFree {a : K} (nonzero : a ≠ 0) (b : K) :
    (∀ maxWindow (fresh : ADWINDetector K), ADWINDetector.init maxWindow = .ok fresh →
      ∀ history, (respondAll DetectorCall.apply fresh (history.map (DetectorCall.inUnit a b))).1 =
        (respondAll DetectorCall.apply fresh history).1) ∧
      ∀ (current reference : List K) (featureName : String) (result : DriftResult K),
        detectFeatureDrift current reference featureName = .ok result →
        detectFeatureDrift (current.map fun x => a * x + b) (reference.map fun x => a * x + b)
          featureName = .ok { result with deviation := |a| * result.deviation } := by
  -- A constructed detector has an empty window, which is the same in every unit.
  refine ⟨fun maxWindow fresh constructed history => ?_,
    fun current reference featureName result accepted => detectFeatureDrift_affine nonzero b accepted⟩
  have empty : fresh.window = [] := by
    rw [ADWINDetector.init] at constructed
    split at constructed
    · cases constructed
    · cases constructed
      rfl
  have start : fresh.InUnit a b fresh := ⟨rfl, by rw [empty, List.map_nil]⟩
  exact (respondAll_simulates (DetectorCall.inUnit a b) (ADWINDetector.InUnit a b)
    (DetectorCall.apply_inUnit nonzero b) start history).1.symm

/-- Scaled by minus two and shifted by one, observations and samples are judged as before. -/
theorem driftDecisions_unitFree_reversed :
    (∃ fresh : ADWINDetector ℝ, ADWINDetector.init 10 = .ok fresh ∧
      ∀ history, (respondAll DetectorCall.apply fresh (history.map (DetectorCall.inUnit (-2) 1))).1 =
        (respondAll DetectorCall.apply fresh history).1) ∧
      ∃ result : DriftResult ℝ, detectFeatureDrift [7] [0, 2] "bytes_out" = .ok result ∧
        detectFeatureDrift [-2 * 7 + 1] [-2 * 0 + 1, -2 * 2 + 1] "bytes_out" =
          .ok { result with deviation := |(-2 : ℝ)| * result.deviation } := by
  -- The unit is turned round, doubled and shifted by one.
  obtain ⟨answers, findings⟩ := driftDecisions_unitFree (show (-2 : ℝ) ≠ 0 by norm_num) 1
  exact ⟨⟨_, rfl, answers 10 _ rfl⟩, _, rfl, findings [7] [0, 2] "bytes_out" _ rfl⟩

end Absm
