import Mathlib.Algebra.Order.Floor.Div
import Mathlib.Data.Rat.Floor
import Mathlib.GroupTheory.GroupAction.Ring
import Mathlib.Tactic.Linarith
import Absm.Foundation.Fallible
import Absm.Monitoring.ModelHealth

/-! How many outliers among the recorded errors the health alarm tolerates. -/

namespace Absm

variable {K : Type} [Field K] [LinearOrder K]

/-! ### The 95th percentile -/

omit [LinearOrder K] in
/-- A cut point is a weighted mean of two neighbours. -/
theorem cutPoint_eq {sorted : List K} {n i : Nat}
    (inside : i * (sorted.length - 1) / n + 1 < sorted.length) :
    cutPoint sorted n i = .ok
      ((sorted[i * (sorted.length - 1) / n] * (n - i * (sorted.length - 1) % n : Nat) +
        sorted[i * (sorted.length - 1) / n + 1] * (i * (sorted.length - 1) % n : Nat)) / n) := by
  -- Both neighbours are in the list.
  rw [cutPoint, getItem_eq (Nat.lt_of_succ_lt inside), getItem_eq inside]
  rfl

/-- The cut points leave their places in ascending order to the items. -/
theorem cutPosition_lt {n i size : Nat} (several : 2 ≤ size) (below : i < n) :
    i * (size - 1) / n + 1 < size := by
  -- The position is below the last index, since `i < n`.
  have position : i * (size - 1) / n < size - 1 := by
    rw [Nat.div_lt_iff_lt_mul (by omega), mul_comm]
    exact Nat.mul_lt_mul_of_pos_left below (by omega)
  omega

/-- The last cut points of a hundred include the 95th. -/
theorem quantiles_at {data : List K} (several : 2 ≤ data.length) :
    ∃ percentiles, quantiles data 100 = .ok percentiles ∧
      ∃ value, getItem percentiles 94 = .ok value ∧ cutPoint (ascending data) 100 95 = .ok value := by
  have size : 2 ≤ (ascending data).length := by rwa [length_ascending]
  obtain ⟨percentiles, returned⟩ := (mapM_ok_iff (cutPoint (ascending data) 100)
    (List.range' 1 (100 - 1))).mpr fun i member =>
      ⟨_, cutPoint_eq (cutPosition_lt size (by simp only [List.mem_range'_1] at member; omega))⟩
  have length : percentiles.length = 99 := by rw [length_of_mapM returned, List.length_range']
  have inside : 94 < percentiles.length := by omega
  refine ⟨percentiles, by rw [quantiles, if_neg (by decide), if_neg (not_lt.mpr several), returned],
    percentiles[94], getItem_eq inside, ?_⟩
  -- The cut points come in the order of their numbers, which start at one.
  have member : (percentiles[94], 95) ∈ percentiles.zip (List.range' 1 (100 - 1)) := by
    have zipped : 94 < (percentiles.zip (List.range' 1 (100 - 1))).length := by
      rw [List.length_zip, length, List.length_range']
      decide
    have found := List.getElem_mem zipped
    rwa [List.getElem_zip, List.getElem_range'] at found
  exact of_mem_zip_mapM returned member

variable [IsStrictOrderedRing K]

/-- A weighted mean of two numbers lies between them. -/
theorem weighted_between {lower upper : K} (order : lower ≤ upper) {n delta : Nat} (part : delta < n) :
    lower ≤ (lower * (n - delta : Nat) + upper * delta) / n ∧
      (lower * (n - delta : Nat) + upper * delta) / n ≤ upper ∧
      (delta = 0 → (lower * (n - delta : Nat) + upper * delta) / n = lower) := by
  -- The weights add up to one.
  have positive : (0 : K) < n := Nat.cast_pos.mpr (by omega)
  have share : (0 : K) ≤ (upper - lower) * delta := mul_nonneg (by linarith) (Nat.cast_nonneg _)
  have rest : (0 : K) ≤ (upper - lower) * ((n : K) - delta) :=
    mul_nonneg (by linarith) (sub_nonneg.mpr (Nat.cast_le.mpr part.le))
  rw [Nat.cast_sub part.le, le_div_iff₀ positive, div_le_iff₀ positive]
  refine ⟨by linarith, by linarith, ?_⟩
  intro none
  rw [none, Nat.cast_zero, sub_zero, mul_zero, add_zero, mul_div_cancel_right₀ _ positive.ne']

/-- The 95th percentile lies between the items at its position in ascending order, rounded down and up. -/
theorem p95_between {errors : List K} (nonempty : errors ≠ [])
    (low : 19 * (errors.length - 1) / 20 < (ascending errors).length)
    (high : errors.length - 1 - (errors.length - 1) / 20 < (ascending errors).length) :
    ∃ value, ModelHealthMonitor.p95 errors = .ok value ∧
      (ascending errors)[19 * (errors.length - 1) / 20] ≤ value ∧
      value ≤ (ascending errors)[errors.length - 1 - (errors.length - 1) / 20] := by
  have some := List.length_pos_iff.mpr nonempty
  by_cases single : errors.length = 1
  · obtain ⟨error, rfl⟩ := List.length_eq_one_iff.mp single
    exact ⟨error, rfl, by simp [ascending], by simp [ascending]⟩
  · have several : 2 ≤ errors.length := by omega
    obtain ⟨percentiles, returned, value, found, cut⟩ := quantiles_at several
    have size := length_ascending errors
    have inside := cutPosition_lt (show 2 ≤ (ascending errors).length from size ▸ several)
      (show 95 < 100 by decide)
    rw [cutPoint_eq inside] at cut
    cases cut
    have sorted := ascending_mono errors (Nat.le_succ _) inside
    obtain ⟨lower, upper, exact⟩ := weighted_between sorted
      (Nat.mod_lt (95 * ((ascending errors).length - 1)) (show 0 < 100 by decide))
    refine ⟨_, by rw [ModelHealthMonitor.p95, if_neg single, returned, ok_bind, found], ?_, ?_⟩
    · exact (ascending_mono errors (by omega) (Nat.lt_of_succ_lt inside)).trans lower
    · -- A position that is whole is not rounded up.
      by_cases whole : 95 * ((ascending errors).length - 1) % 100 = 0
      · rw [exact whole]
        exact ascending_mono errors (by omega) high
      · exact upper.trans (ascending_mono errors (by omega) high)

/-! ### The alarm -/

/-- The check reports that the errors are too large. -/
def HealthStatus.Exceeded (status : HealthStatus K) : Prop :=
  -- Told from the message alone.
  status.statusMessage = "unhealthy: p95 reconstruction error exceeded 2x baseline"

/-- The check reports that the errors are too small. -/
def HealthStatus.FellBelow (status : HealthStatus K) : Prop :=
  -- The other unhealthy message.
  status.statusMessage = "unhealthy: p95 reconstruction error fell below 0.1x baseline"

namespace ModelHealthMonitor

omit [IsStrictOrderedRing K] in
/-- The monitor keeps the newest of the recorded errors. -/
theorem foldl_recordError (monitor : ModelHealthMonitor K) {recorded : List K}
    (newest : monitor.errors = recorded.rtake monitor.maxErrors) (errors : List K) :
    (errors.foldl recordError monitor).errors = (recorded ++ errors).rtake monitor.maxErrors ∧
      (errors.foldl recordError monitor).baselineP95 = monitor.baselineP95 := by
  -- Each error slides into the window, and the baseline stays.
  induction errors generalizing monitor recorded with
  | nil => exact ⟨by rw [List.append_nil, List.foldl_nil, newest], rfl⟩
  | cons error errors ih =>
    have slid : (monitor.recordError error).errors =
        (recorded ++ [error]).rtake (monitor.recordError error).maxErrors := by
      show slide monitor.maxErrors monitor.errors error = _
      rw [newest, slide_rtake]
      rfl
    rw [List.foldl_cons, List.append_cons]
    exact ih _ slid

/-- A check of at least one error reports whether the percentile is outside of its bounds. -/
theorem checkHealth_spec (monitor : ModelHealthMonitor K) {value : K} (some : monitor.errors ≠ [])
    (found : p95 monitor.errors = .ok value) :
    ∃ status, monitor.checkHealth = .ok status ∧
      (status.Exceeded ↔ 2 * monitor.baselineP95 < value) ∧
      (status.FellBelow ↔ value < monitor.baselineP95 / 10) ∧
      (status.healthy = true ↔ ¬ status.Exceeded ∧ ¬ status.FellBelow) := by
  have double : monitor.baselineP95 * 2.0 = 2 * monitor.baselineP95 := by norm_num [mul_comm]
  have tenth : monitor.baselineP95 * 0.1 = monitor.baselineP95 / 10 := by
    rw [div_eq_mul_inv]
    norm_num
  have apart : monitor.baselineP95 / 10 < 2 * monitor.baselineP95 := by linarith [monitor.positive]
  have filled : ¬ monitor.errors.isEmpty = true := by simpa using some
  rw [checkHealth, if_neg filled, found, ok_bind]
  simp only [double, tenth, HealthStatus.Exceeded, HealthStatus.FellBelow]
  -- The three outcomes have three messages, and no percentile is outside of both bounds.
  split
  case isTrue high =>
    have notLow : ¬ value < monitor.baselineP95 / 10 := by linarith
    exact ⟨_, rfl, by simp [high], by simp [notLow], by simp⟩
  case isFalse notHigh =>
    split
    case isTrue low => exact ⟨_, rfl, by simp [notHigh], by simp [low], by simp⟩
    case isFalse notLow => exact ⟨_, rfl, by simp [notHigh], by simp [notLow], by simp⟩

omit [IsStrictOrderedRing K] in
/-- The constructor accepts a positive baseline, given or from the settings, and a positive number of
errors to keep. -/
theorem init_eq {settingsBaseline : K} {baselineP95 : Option K}
    (positive : 0 < baselineP95.getD settingsBaseline) {maxErrors : Nat} (keeps : 0 < maxErrors) :
    ∃ monitor, init settingsBaseline baselineP95 maxErrors = .ok monitor ∧
      monitor.baselineP95 = baselineP95.getD settingsBaseline ∧ monitor.maxErrors = maxErrors ∧
      monitor.errors = [] := by
  -- Both guards of the constructor are passed.
  have some : ¬ (maxErrors : Int) ≤ 0 := by omega
  rw [init, dif_neg (not_le.mpr positive), dif_neg some]
  exact ⟨_, rfl, rfl, Int.toNat_natCast _, rfl⟩

/-- What is used when nothing is given is accepted. -/
theorem init_default :
    ∃ monitor : ModelHealthMonitor K,
      init monitoringModelBaselineP95Default none defaultMaxErrors = .ok monitor := by
  -- The default baseline is positive.
  have positive : (0 : K) < (none : Option K).getD monitoringModelBaselineP95Default := by
    norm_num [monitoringModelBaselineP95Default]
  obtain ⟨monitor, made, -⟩ := init_eq positive (show 0 < 1000 by decide)
  exact ⟨monitor, made⟩

end ModelHealthMonitor

open ModelHealthMonitor

/-- The alarm on large errors tolerates a twentieth of the other errors, rounded down, and does not
tolerate one more than a twentieth rounded up; the alarm on small errors is the same with the roles
exchanged; and the model is healthy when there is no alarm. -/
theorem healthAlarm_tolerance {settingsBaseline : K} {baselineP95 : Option K}
    (positive : 0 < baselineP95.getD settingsBaseline) {maxErrors : Nat} (keeps : 0 < maxErrors)
    {errors : List K} (nonempty : errors ≠ []) :
    ∃ monitor status, init settingsBaseline baselineP95 maxErrors = .ok monitor ∧
      (errors.foldl recordError monitor).checkHealth = .ok status ∧
      let baseline := baselineP95.getD settingsBaseline
      let window := errors.rtake maxErrors
      ((window.countP fun error => 2 * baseline < error) ≤ (window.length - 1) / 20 →
          ¬ status.Exceeded) ∧
        ((window.length - 1) ⌈/⌉ 20 + 1 ≤ (window.countP fun error => 2 * baseline < error) →
          status.Exceeded) ∧
        (window.length - (window.length - 1) / 20 ≤ (window.countP fun error => error < baseline / 10) →
          status.FellBelow) ∧
        ((window.length - 1) ⌈/⌉ 20 + 1 ≤ (window.countP fun error => baseline / 10 ≤ error) →
          ¬ status.FellBelow) ∧
        (status.healthy = true ↔ ¬ status.Exceeded ∧ ¬ status.FellBelow) := by
  obtain ⟨monitor, made, baseline, bound, empty⟩ := init_eq positive keeps
  obtain ⟨recorded, kept⟩ := foldl_recordError monitor (empty.trans (List.rtake_nil _).symm) errors
  rw [List.nil_append, bound] at recorded
  have some : errors.rtake maxErrors ≠ [] := by
    rw [← List.length_pos_iff, List.rtake, List.length_drop]
    have length := List.length_pos_iff.mpr nonempty
    omega
  have size := length_ascending (errors.rtake maxErrors)
  have count := List.length_pos_iff.mpr some
  have low : 19 * ((errors.rtake maxErrors).length - 1) / 20 <
      (ascending (errors.rtake maxErrors)).length := by omega
  have high : (errors.rtake maxErrors).length - 1 - ((errors.rtake maxErrors).length - 1) / 20 <
      (ascending (errors.rtake maxErrors)).length := by omega
  obtain ⟨value, found, lower, upper⟩ := p95_between some low high
  obtain ⟨status, checked, exceeded, fellBelow, healthy⟩ :=
    checkHealth_spec (errors.foldl recordError monitor) (recorded ▸ some) (recorded ▸ found)
  rw [kept, baseline] at exceeded fellBelow
  have ceil := Nat.ceilDiv_eq_add_pred_div ((errors.rtake maxErrors).length - 1) 20
  refine ⟨monitor, status, made, checked, ?_, ?_, ?_, ?_, healthy⟩
  · intro few alarm
    -- The item behind the percentile would exceed the bound, and with it all items further on.
    have many := (lt_ascending_iff _ _ high).mp ((exceeded.mp alarm).trans_le upper)
    omega
  · intro many
    exact exceeded.mpr (((lt_ascending_iff _ _ low).mpr (by omega)).trans_le lower)
  · intro many
    exact fellBelow.mpr (upper.trans_lt ((ascending_lt_iff _ _ high).mpr (by omega)))
  · intro many alarm
    have above := (le_ascending_iff (baselineP95.getD settingsBaseline / 10) _ low).mpr (by omega)
    exact absurd (fellBelow.mp alarm) (not_lt.mpr (above.trans lower))

/-- Twenty errors at the baseline, and one at three times the baseline. -/
def oneOutlier : List ℚ :=
  -- Twenty ones and a three.
  List.replicate 20 1 ++ [3]

/-- One outlier among twenty-one errors is tolerated. -/
theorem healthAlarm_tolerance_one :
    ∃ monitor status, init 0 (some 1) (1000 : Nat) = .ok monitor ∧
      (oneOutlier.foldl recordError monitor).checkHealth = .ok status ∧ status.healthy = true := by
  -- The outlier is above the percentile's position.
  obtain ⟨monitor, status, made, checked, tolerated, -, -, large, healthy⟩ :=
    healthAlarm_tolerance (show (0 : ℚ) < (some 1).getD 0 by decide) (show 0 < 1000 by decide)
      (show oneOutlier ≠ [] by decide)
  exact ⟨monitor, status, made, checked,
    healthy.mpr ⟨tolerated (by decide +kernel), large (by decide +kernel)⟩⟩

end Absm
