import Absm.Foundation.Decay
import Absm.Proofs.Models.DriftRate

/-! How fast a mean follows observations that stay at one value. -/

namespace Absm

/-- The key of a deviation is not the key that it belongs to. -/
theorem stdKey_ne (key : String) : stdKey key ≠ key := by
  -- Five characters are replaced by four, or four are added.
  intro same
  have length := congrArg (fun text => text.toList.length) same
  unfold stdKey at length
  split at length
  case isTrue suffix =>
    have long := (List.isSuffixOf_iff_suffix.mp suffix).length_le
    simp at length long
    omega
  case isFalse => simp at length

section Frame

variable {F : Type} [Add F] [Sub F] [Mul F] [Neg F] [OfScientific F] [LT F] [LE F] [DecidableLT F]
  [DecidableLE F]

/-- Calls at some times, each of which observes the same value of one feature and nothing else. -/
def shiftCalls (userId key : String) (value alpha : F) (times : List DateTime) :
    List (UpdateCall F × StoreFaults) :=
  -- The same call at different times.
  times.map fun now => (⟨userId, .ofList [(key, value)], alpha, now⟩, .none)

/-- The means of a run of such calls: each is computed from the one before. -/
theorem afterCalls_shift {store : FeatureStore F} {userId key : String} {mean sigma value alpha : F}
    (admitted : 0.0 < alpha ∧ alpha ≤ 1.0) (known : store.feature userId key = some mean)
    (companion : store.feature userId (stdKey key) = some sigma) (times : List DateTime) :
    (afterCalls store (shiftCalls userId key value alpha times)).feature userId key =
      some ((fun mean => newMean alpha mean value sigma)^[times.length] mean) := by
  -- A call moves the mean under the stored deviation and leaves the deviation alone.
  induction times generalizing store mean with
  | nil => exact known
  | cons now times ih =>
    have observed : (Dict.ofList [(key, value)]).get? key = some value := Dict.get?_set_self _ _ _
    have fixed : (Dict.ofList [(key, value)]).get? (stdKey key) = none :=
      Dict.get?_set_of_ne _ (stdKey_ne key) _
    have takes : UpdateCall.takesEffect ⟨userId, .ofList [(key, value)], alpha, now⟩ .none store := by
      refine ⟨admitted, rfl, ?_, by simp [StoreFaults.none]⟩
      cases found : store userId with
      | none => simp [FeatureStore.feature, found] at known
      | some profile => rfl
    exact ih (updateBaseline_feature_fixedStd takes known companion observed fixed)
      ((updateBaseline_feature_absent takes fixed).trans companion)

end Frame

section Exact

variable {K : Type} [Field K] [LinearOrder K] [IsStrictOrderedRing K]

/-- The distance to the observation decays: by half a deviation beyond five of them, and else by the
weight's share. -/
theorem newMean_distance {alpha sigma : K} (atMost : alpha ≤ 1) (spread : 0 < sigma)
    (mean value : K) :
    |newMean alpha mean value sigma - value| =
      decay (5 * sigma) (1 / 2 * sigma) (1 - alpha) |mean - value| := by
  obtain ⟨_, half, one, _⟩ := update_literals (K := K)
  have outlier : isOutlier mean value sigma ↔ 5 * sigma < |value - mean| := isOutlier_iff spread
  rw [abs_sub_comm value mean] at outlier
  unfold newMean decay
  by_cases far : 5 * sigma < |mean - value|
  · rw [if_pos (outlier.mpr far), if_pos far, half]
    -- A capped step goes towards the observation and ends before it.
    split
    case isTrue below =>
      have negative : mean - value ≤ 0 := by linarith
      rw [abs_of_nonpos negative] at far ⊢
      rw [abs_of_nonpos (by linarith)]
      ring
    case isFalse above =>
      have positive : 0 ≤ mean - value := by linarith
      rw [abs_of_nonneg positive] at far ⊢
      rw [abs_of_nonneg (by linarith)]
      ring
  · rw [if_neg (mt outlier.mp far), if_neg far, one]
    have moved : alpha * value + (1 - alpha) * mean - value = (1 - alpha) * (mean - value) := by ring
    rw [moved, abs_mul, abs_of_nonneg (by linarith)]

/-- The distances of a run of means decay. -/
theorem newMean_distances {alpha sigma : K} (atMost : alpha ≤ 1) (spread : 0 < sigma)
    (mean value : K) (calls : ℕ) :
    |(fun mean => newMean alpha mean value sigma)^[calls] mean - value| =
      (decay (5 * sigma) (1 / 2 * sigma) (1 - alpha))^[calls] |mean - value| := by
  -- One call after another moves the distance by one step.
  induction calls generalizing mean with
  | zero => rfl
  | succ calls ih =>
    rw [Function.iterate_succ_apply, Function.iterate_succ_apply, ih, newMean_distance atMost spread]

/-- Under observations that stay at one value the distance to it never grows, is at most five deviations
after twice as many calls as there are deviations beyond these, and from there on shrinks by the same
factor with every call. -/
theorem afterCalls_lastingShift (store : FeatureStore K) (userId key : String)
    (mean sigma value alpha : K) (known : store.feature userId key = some mean)
    (companion : store.feature userId (stdKey key) = some sigma) (spread : 0 < sigma)
    (weight : 0 < alpha ∧ alpha ≤ 1) :
    ∃ means : ℕ → K, means 0 = mean ∧
      (∀ times, (afterCalls store (shiftCalls userId key value alpha times)).feature userId key =
        some (means times.length)) ∧
      (∀ calls, |means (calls + 1) - value| ≤ |means calls - value|) ∧
      (∀ calls : ℕ, 2 * (|mean - value| / sigma - 5) ≤ calls → |means calls - value| ≤ 5 * sigma) ∧
      ∀ calls further, |means calls - value| ≤ 5 * sigma →
        |means (calls + further) - value| = (1 - alpha) ^ further * |means calls - value| := by
  obtain ⟨zero, _, one, _⟩ := update_literals (K := K)
  obtain ⟨positive, atMost⟩ := weight
  have distances := newMean_distances atMost spread mean value
  have factor_nonneg : 0 ≤ 1 - alpha := by linarith
  have factor_le : 1 - alpha ≤ 1 := by linarith
  refine ⟨fun calls => (fun mean => newMean alpha mean value sigma)^[calls] mean, rfl,
    fun times => ?_, fun calls => ?_, fun calls enough => ?_, fun calls further near => ?_⟩
  · exact afterCalls_shift (by rw [zero, one]; exact ⟨positive, atMost⟩) known companion times
  · rw [distances, Function.iterate_succ_apply', ← distances]
    exact decay_le (by linarith) factor_le (abs_nonneg _)
  · -- Each call beyond the limit has taken half a deviation, and there were enough of them.
    have within : 1 / 2 * sigma ≤ 5 * sigma := by linarith
    have bound := (decay_iterate_le within (by linarith) factor_nonneg factor_le
      (abs_nonneg (mean - value)) calls).2
    rw [← distances] at bound
    rcases bound with near | less
    · exact near
    · have scaled : |mean - value| ≤ (calls / 2 + 5) * sigma := by
        rw [← div_le_iff₀ spread]
        linarith
      linarith
  · show |(fun mean => newMean alpha mean value sigma)^[calls + further] mean - value| = _
    rw [Nat.add_comm, Function.iterate_add_apply, newMean_distances atMost spread]
    exact decay_iterate_within factor_nonneg factor_le (abs_nonneg _) near further

/-- A mean of 10 with a deviation of 2 follows observations of 30. -/
theorem afterCalls_lastingShift_thirty :
    ∃ means : ℕ → ℚ, means 0 = 10 ∧
      (∀ times, (afterCalls oneDeviationStore (shiftCalls "u" "x_mean" 30 (1 / 2) times)).feature "u"
        "x_mean" = some (means times.length)) ∧
      (∀ calls, |means (calls + 1) - 30| ≤ |means calls - 30|) ∧
      (∀ calls : ℕ, 2 * (|(10 : ℚ) - 30| / 2 - 5) ≤ calls → |means calls - 30| ≤ 5 * 2) ∧
      ∀ calls further, |means calls - 30| ≤ 5 * 2 →
        |means (calls + further) - 30| = (1 - 1 / 2) ^ further * |means calls - 30| :=
  -- Ten deviations away, where the cap applies first.
  afterCalls_lastingShift oneDeviationStore "u" "x_mean" 10 2 30 (1 / 2) (by decide +kernel)
    (by decide +kernel) (by norm_num) (by norm_num)

end Exact
end Absm
