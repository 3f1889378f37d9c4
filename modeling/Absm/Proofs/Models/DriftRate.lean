import Absm.Foundation.Spread
import Absm.Proofs.Models.BaselineUpdates

/-! How far extreme observations can move a mean in a run of baseline updates. -/

namespace Absm

section Frame

variable {F : Type} [Add F] [Sub F] [Mul F] [Neg F] [OfScientific F] [LT F] [LE F] [DecidableLT F]
  [DecidableLE F]

/-- A feature whose deviation is not observed moves under the stored deviation. -/
theorem updateFeatures_of_fixedStd (alpha : F) {vector : Dict String F} {key : String} {newVal : F}
    (observed : vector.get? key = some newVal) (fixed : vector.get? (stdKey key) = none)
    (features : Dict String F) :
    (updateFeatures alpha vector features).get? key =
      some (newMean alpha (features.getD key newVal) newVal (features.getD (stdKey key) 0.0)) := by
  -- The loop observes the feature once and its deviation never.
  obtain ⟨sigma, unobserved, found⟩ := foldl_updateFeature_moves vector.distinct
    (Dict.mem_entries_iff.mpr observed) features
  exact unobserved (Dict.get?_eq_none_iff.mp fixed) ▸ found

/-- A call that takes effect moves a mean whose deviation it does not observe under the stored one. -/
theorem updateBaseline_feature_fixedStd {call : UpdateCall F} {faults : StoreFaults}
    {store : FeatureStore F} {key : String} {mean sigma newVal : F}
    (takes : call.takesEffect faults store) (known : store.feature call.userId key = some mean)
    (companion : store.feature call.userId (stdKey key) = some sigma)
    (observed : call.newFeatureVec.get? key = some newVal)
    (fixed : call.newFeatureVec.get? (stdKey key) = none) :
    (updateBaseline call faults store).2.feature call.userId key =
      some (newMean call.alpha mean newVal sigma) := by
  -- Both values are those of the profile that the call replaces by its refreshment.
  obtain ⟨profile, found⟩ := Option.isSome_iff_exists.mp takes.2.2.1
  simp only [FeatureStore.feature, found, Option.bind_some] at known companion
  simp only [FeatureStore.feature, updateBaseline_self takes, found, Option.map_some,
    Option.bind_some, UpdateCall.refresh, refreshed]
  rw [updateFeatures_of_fixedStd call.alpha observed fixed]
  simp only [Dict.getD, known, companion, Option.getD_some]

end Frame

section Exact

variable {K : Type} [Field K] [LinearOrder K] [IsStrictOrderedRing K]

/-- A mean moves by some deviations in one update: half of one when the move is capped, and otherwise
the weight's share of the five that are not. -/
private theorem driftRate_pos (alpha : K) : 0 < max (1 / 2) (5 * alpha) :=
  -- The capped move alone is positive.
  lt_of_lt_of_le (by norm_num) (le_max_left _ _)

/-- An observation is an outlier when it is more than five deviations away. -/
theorem isOutlier_iff {oldMean newVal sigma : K} (spread : 0 < sigma) :
    isOutlier oldMean newVal sigma ↔ 5 * sigma < |newVal - oldMean| := by
  -- The deviation is positive, so only the distance is compared.
  obtain ⟨zero, _, _, five⟩ := update_literals (K := K)
  rw [isOutlier, zero, five, absolute_eq]
  exact and_iff_right spread

/-- A capped move is half a deviation, in either direction. -/
theorem newMean_capped (alpha : K) {oldMean newVal sigma : K}
    (outlier : isOutlier oldMean newVal sigma) (spread : 0 < sigma) :
    |newMean alpha oldMean newVal sigma - oldMean| = 1 / 2 * sigma := by
  -- The step is half a deviation, up or down.
  obtain ⟨_, half, _⟩ := update_literals (K := K)
  rw [newMean, if_pos outlier, add_sub_cancel_left, half]
  split
  case isTrue => rw [abs_of_pos (by linarith)]
  case isFalse => rw [neg_mul, abs_neg, abs_of_pos (by linarith)]

/-- A move that is not capped is the weight's share of the way to the observation. -/
theorem newMean_plain {alpha : K} (positive : 0 < alpha) {oldMean newVal sigma : K}
    (near : ¬ isOutlier oldMean newVal sigma) :
    |newMean alpha oldMean newVal sigma - oldMean| = alpha * |newVal - oldMean| := by
  -- The weighted mean moves by the weight's part of the distance.
  obtain ⟨_, _, one, _⟩ := update_literals (K := K)
  have moved : newMean alpha oldMean newVal sigma - oldMean = alpha * (newVal - oldMean) := by
    rw [newMean, if_neg near, one]
    ring
  rw [moved, abs_mul, abs_of_pos positive]

/-- One update moves a mean by no more than the rate allows, however extreme the observation is. -/
theorem newMean_drift {alpha : K} (positive : 0 < alpha) (oldMean newVal : K) {sigma : K}
    (spread : 0 < sigma) :
    |newMean alpha oldMean newVal sigma - oldMean| ≤ max (1 / 2) (5 * alpha) * sigma := by
  have capped : 1 / 2 * sigma ≤ max (1 / 2) (5 * alpha) * sigma :=
    mul_le_mul_of_nonneg_right (le_max_left _ _) spread.le
  have weighted : 5 * alpha * sigma ≤ max (1 / 2) (5 * alpha) * sigma :=
    mul_le_mul_of_nonneg_right (le_max_right _ _) spread.le
  by_cases outlier : isOutlier oldMean newVal sigma
  · exact (newMean_capped alpha outlier spread).trans_le capped
  · -- Without a cap the observation is at most five deviations away.
    have near : |newVal - oldMean| ≤ 5 * sigma :=
      not_lt.mp fun far => outlier ((isOutlier_iff spread).mpr far)
    calc |newMean alpha oldMean newVal sigma - oldMean|
        = alpha * |newVal - oldMean| := newMean_plain positive outlier
      _ ≤ alpha * (5 * sigma) := mul_le_mul_of_nonneg_left near positive.le
      _ = 5 * alpha * sigma := by ring
      _ ≤ max (1 / 2) (5 * alpha) * sigma := weighted

/-- One call moves a mean by no more than the rate allows, and leaves its deviation alone. -/
theorem updateBaseline_drift {call : UpdateCall K} (faults : StoreFaults) {store : FeatureStore K}
    {key : String} {mean sigma : K} (known : store.feature call.userId key = some mean)
    (companion : store.feature call.userId (stdKey key) = some sigma) (spread : 0 < sigma)
    (fixed : call.newFeatureVec.get? (stdKey key) = none) :
    ∃ moved, (updateBaseline call faults store).2.feature call.userId key = some moved ∧
      |moved - mean| ≤ max (1 / 2) (5 * call.alpha) * sigma ∧
      (updateBaseline call faults store).2.feature call.userId (stdKey key) = some sigma := by
  have still : |mean - mean| ≤ max (1 / 2) (5 * call.alpha) * sigma := by
    rw [sub_self, abs_zero]
    exact (mul_pos (driftRate_pos _) spread).le
  by_cases takes : call.takesEffect faults store
  · -- The deviation stays, and so does a mean that is not observed.
    have kept := (updateBaseline_feature_absent takes fixed).trans companion
    cases observed : call.newFeatureVec.get? key with
    | none => exact ⟨mean, (updateBaseline_feature_absent takes observed).trans known, still, kept⟩
    | some newVal =>
      exact ⟨_, updateBaseline_feature_fixedStd takes known companion observed fixed,
        newMean_drift (UpdateCall.admitted_iff.mp takes.1).1 mean newVal spread, kept⟩
  · -- A call without effect moves nothing.
    have same : (updateBaseline call faults store).2 call.userId = store call.userId :=
      updateBaseline_feature_other fun both => takes both.2
    simp only [FeatureStore.feature, same]
    exact ⟨mean, known, still, companion⟩

/-- After a run of calls of one weight on one user that never observe the deviation of a feature, the
mean has moved by at most the rate for each call, and the deviation is unchanged. -/
theorem afterCalls_drift (store : FeatureStore K) (userId key : String) (mean sigma alpha : K)
    (known : store.feature userId key = some mean)
    (companion : store.feature userId (stdKey key) = some sigma) (spread : 0 < sigma)
    (calls : List (UpdateCall K × StoreFaults))
    (onUser : ∀ call ∈ calls, call.1.userId = userId ∧ call.1.alpha = alpha ∧
      call.1.newFeatureVec.get? (stdKey key) = none) :
    ∃ moved, (afterCalls store calls).feature userId key = some moved ∧
      |moved - mean| ≤ calls.length * max (1 / 2) (5 * alpha) * sigma ∧
      (afterCalls store calls).feature userId (stdKey key) = some sigma := by
  -- The moves of the calls add up, and each starts from the same deviation.
  induction calls generalizing store mean with
  | nil => exact ⟨mean, known, by simp, companion⟩
  | cons call calls ih =>
    obtain ⟨call, faults⟩ := call
    obtain ⟨rfl, rfl, fixed⟩ := onUser (call, faults) (by simp)
    obtain ⟨first, reached, near, kept⟩ := updateBaseline_drift faults known companion spread fixed
    obtain ⟨last, final, far, unchanged⟩ := ih _ first reached kept
      (fun later member => onUser later (List.mem_cons_of_mem _ member))
    refine ⟨last, final, ?_, unchanged⟩
    calc |last - mean|
        ≤ |last - first| + |first - mean| := abs_sub_le _ _ _
      _ ≤ calls.length * max (1 / 2) (5 * call.alpha) * sigma +
          max (1 / 2) (5 * call.alpha) * sigma := add_le_add far near
      _ = ((call, faults) :: calls).length * max (1 / 2) (5 * call.alpha) * sigma := by
        push_cast [List.length_cons]
        ring

/-- A store with the profile of one user, whose one mean is 10 with a deviation of 2. -/
def oneDeviationStore : FeatureStore ℚ :=
  -- The deviation of `x_mean` is two.
  Function.update (fun _ => none) "u"
    (some ⟨"u", 7, .ofList [("x_mean", 10), ("x_std", 2)], .epoch⟩)

/-- A call that observes a million, under a weight of a half. -/
def extremeCall : UpdateCall ℚ :=
  -- Far more than five deviations away.
  ⟨"u", .ofList [("x_mean", 1000000)], 1 / 2, .epoch⟩

/-- Two observations of a million move the mean by at most ten. -/
theorem afterCalls_drift_extreme : ∃ moved,
    (afterCalls oneDeviationStore [(extremeCall, .none), (extremeCall, .none)]).feature "u" "x_mean" =
      some moved ∧ |moved - 10| ≤ 2 * max (1 / 2) (5 * (1 / 2)) * 2 ∧
    (afterCalls oneDeviationStore [(extremeCall, .none), (extremeCall, .none)]).feature "u"
      (stdKey "x_mean") = some 2 :=
  -- The companion key is not among those of the call.
  afterCalls_drift oneDeviationStore "u" "x_mean" 10 2 (1 / 2) (by decide +kernel)
    (by decide +kernel) (by norm_num) [(extremeCall, .none), (extremeCall, .none)]
    (by decide +kernel)

end Exact
end Absm
