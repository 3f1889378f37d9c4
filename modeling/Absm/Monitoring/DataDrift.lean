import Absm.Foundation.Fallible
import Absm.Foundation.Samples

/-! The comparison of one feature's current mean with a reference sample. -/

namespace Absm

/-- What a comparison finds. -/
structure DriftResult (F : Type) where
  /-- The feature. -/
  featureName : String
  /-- Whether the mean has moved too far. -/
  drifted : Bool
  /-- How far the mean has moved. -/
  deviation : F

/-- Compare the current values of a feature with a reference sample. -/
def detectFeatureDrift {F : Type} [Sub F] [Mul F] [Neg F] [OfScientific F] [LT F] [DecidableLT F]
    [Statistics F] (current reference : List F) (featureName : String) :
    Except PyError (DriftResult F) :=
  -- Three checks come first, then the summaries are computed one after another.
  if current.isEmpty then .error (.valueError "current must not be empty")
  else if reference.isEmpty then .error (.valueError "reference must not be empty")
  else if reference.length < 2 then
    .error (.valueError "reference must contain at least 2 values")
  else do
    let currentMean ← Statistics.fmean current
    let referenceMean ← Statistics.fmean reference
    let referenceStdev ← Statistics.stdev reference
    let deviation := absolute (currentMean - referenceMean)
    let threshold := 2.0 * referenceStdev
    return ⟨featureName, threshold < deviation, deviation⟩

/-! ### Exact samples -/

open ExtFloat (sampleVariance)

/-- What a comparison of exact numbers finds: the samples are long enough, and distance and deviation are
exact. -/
theorem detectFeatureDrift_eq_ok {K : Type} [Field K] [LinearOrder K] [SquareRoot K]
    {current reference : List K} {featureName : String} {result : DriftResult K} :
    detectFeatureDrift current reference featureName = .ok result ↔
      current ≠ [] ∧ 2 ≤ reference.length ∧ result = ⟨featureName,
        2.0 * SquareRoot.sqrt (sampleVariance reference) < absolute (mean current - mean reference),
        absolute (mean current - mean reference)⟩ := by
  -- The checks are passed one after another, and the summaries raise nothing behind them.
  by_cases filled : current = []
  · simp [detectFeatureDrift, filled]
  by_cases several : 2 ≤ reference.length
  · have referenceFilled : reference ≠ [] := by
      rintro rfl
      simp at several
    simp only [detectFeatureDrift, List.isEmpty_iff, filled, referenceFilled, if_neg (not_lt.mpr several),
      if_false, fmean_exact filled, fmean_exact referenceFilled, stdev_exact several, ok_bind, pure_eq_ok,
      ne_eq, not_false_eq_true, several, true_and, Except.ok.injEq]
    exact eq_comm
  · have short : reference.length < 2 := not_le.mp several
    simp only [detectFeatureDrift, List.isEmpty_iff, filled, if_false, short, if_true, several, false_and,
      and_false, iff_false]
    split <;> simp

end Absm
