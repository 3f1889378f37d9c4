import Absm.Proofs.Models.DriftRate

/-! Where the cap on outliers moves a mean further than no cap would. -/

namespace Absm

variable {K : Type} [Field K] [LinearOrder K] [IsStrictOrderedRing K]

/-- A mean moves no further than without a cap exactly when the observation is within five deviations,
or so far away that the weight's share of the way is at least half a deviation. -/
theorem newMean_atMostPlain_iff {alpha : K} (positive : 0 < alpha) (oldMean newVal : K) {sigma : K}
    (spread : 0 < sigma) :
    |newMean alpha oldMean newVal sigma - oldMean| ≤ alpha * |newVal - oldMean| ↔
      |newVal - oldMean| ≤ 5 * sigma ∨ sigma ≤ 2 * alpha * |newVal - oldMean| := by
  -- The capped move is the same for all weights and all outliers.
  by_cases outlier : isOutlier oldMean newVal sigma
  · have far := (isOutlier_iff spread).mp outlier
    rw [newMean_capped alpha outlier spread, or_iff_right (not_le.mpr far)]
    constructor <;> intro bound <;> linarith
  · have near : |newVal - oldMean| ≤ 5 * sigma :=
      not_lt.mp fun far => outlier ((isOutlier_iff spread).mpr far)
    exact iff_of_true (newMean_plain positive outlier).le (.inl near)

/-- A call moves a mean whose deviation it does not observe no further than the plain step would exactly
when the observation is within five deviations, or so far away that the weight's share of the way is at
least half a deviation. -/
theorem updateBaseline_atMostPlain_iff (store : FeatureStore K) (call : UpdateCall K) (key : String)
    (mean sigma newVal : K) (known : store.feature call.userId key = some mean)
    (companion : store.feature call.userId (stdKey key) = some sigma) (spread : 0 < sigma)
    (weight : 0 < call.alpha ∧ call.alpha ≤ 1)
    (observed : call.newFeatureVec.get? key = some newVal)
    (fixed : call.newFeatureVec.get? (stdKey key) = none) :
    (∃ moved, (updateBaseline call .none store).1 = .ok () ∧
      (updateBaseline call .none store).2.feature call.userId key = some moved ∧
      |moved - mean| ≤ call.alpha * |newVal - mean|) ↔
        |newVal - mean| ≤ 5 * sigma ∨ sigma ≤ 2 * call.alpha * |newVal - mean| := by
  rw [← newMean_atMostPlain_iff weight.1 mean newVal spread]
  have admitted := UpdateCall.admitted_iff.mpr weight
  obtain ⟨profile, found⟩ : ∃ profile, store call.userId = some profile := by
    cases found : store call.userId with
    | none => simp [FeatureStore.feature, found] at known
    | some profile => exact ⟨profile, rfl⟩
  have returned : (updateBaseline call .none store).1 = .ok () := by
    simp [updateBaseline, admitted, StoreFaults.none, found]
  -- The new mean is computed from the stored mean and the stored deviation.
  have moved := updateBaseline_feature_fixedStd (takesEffect_of_ok returned) known companion observed
    fixed
  simp [returned, moved]

/-- A call that observes six deviations above the mean, under the default weight. -/
def sixDeviationsCall : UpdateCall ℚ :=
  -- Twelve away from the mean at a deviation of two.
  ⟨"u", .ofList [("x_mean", 22)], 1 / 20, .epoch⟩

/-- The law at six deviations. -/
theorem updateBaseline_atMostPlain_iff_six :
    (∃ moved, (updateBaseline sixDeviationsCall .none oneDeviationStore).1 = .ok () ∧
      (updateBaseline sixDeviationsCall .none oneDeviationStore).2.feature "u" "x_mean" = some moved ∧
      |moved - 10| ≤ 1 / 20 * |(22 : ℚ) - 10|) ↔
        |(22 : ℚ) - 10| ≤ 5 * 2 ∨ 2 ≤ 2 * (1 / 20) * |(22 : ℚ) - 10| :=
  -- Between five deviations and ten at this weight.
  updateBaseline_atMostPlain_iff oneDeviationStore sixDeviationsCall "x_mean" 10 2 22
    (by decide +kernel) (by decide +kernel) (by norm_num) (by decide +kernel) (by decide +kernel)
    (by decide +kernel)

/-- At six deviations the cap moves the mean by one, and the plain step would move it by 0.6. -/
theorem updateBaseline_atMostPlain_fails :
    (updateBaseline sixDeviationsCall .none oneDeviationStore).2.feature "u" "x_mean" = some 11 ∧
      ¬ ∃ moved, (updateBaseline sixDeviationsCall .none oneDeviationStore).1 = .ok () ∧
        (updateBaseline sixDeviationsCall .none oneDeviationStore).2.feature "u" "x_mean" =
          some moved ∧ |moved - 10| ≤ 1 / 20 * |(22 : ℚ) - 10| := by
  have moved : (updateBaseline sixDeviationsCall .none oneDeviationStore).2.feature "u" "x_mean" =
      some 11 := by decide +kernel
  refine ⟨moved, fun found => ?_⟩
  -- One is more than 0.6.
  obtain ⟨mean, -, reached, near⟩ := found
  rw [moved, Option.some.injEq] at reached
  subst reached
  norm_num at near

end Absm
