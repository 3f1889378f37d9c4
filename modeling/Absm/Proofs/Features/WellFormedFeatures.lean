import Mathlib.Data.Set.Finite.Lemmas
import Absm.Proofs.Features.ExactSummaries

/-! Features that are returned are well formed, and which events have features at all. -/

namespace Absm

variable {K : Type} [Field K]

/-! ### Counts -/

/-- How many values, or addresses, of a metric there are among some events. -/
def metricCount (metric : String) (inside : List (ScrubbedEvent (ExtFloat K))) : Nat :=
  -- Addresses are counted without duplicates.
  if metric ∈ valuedMetrics then (metricValues metric inside).length else (addressesOf inside).length

/-- Some of the events have some of the values. -/
theorem metricValues_sublist {inside others : List (ScrubbedEvent (ExtFloat K))}
    (some : inside.Sublist others) (metric : String) :
    (metricValues metric inside).Sublist (metricValues metric others) := by
  -- Values are mapped and filtered out of the events.
  unfold metricValues
  split
  · exact some.map _
  · exact (some.filterMap _).filterMap _
  · exact (some.filterMap _).map _
  · exact List.Sublist.refl _

/-- No metric has more values than there are events. -/
theorem length_metricValues_le (metric : String) (inside : List (ScrubbedEvent (ExtFloat K))) :
    (metricValues metric inside).length ≤ inside.length := by
  -- An event contributes at most one value.
  unfold metricValues
  split
  · exact (List.length_map _).le
  · exact (List.length_filterMap_le _ _).trans (List.length_filterMap_le _ _)
  · exact (List.length_map _).le.trans (List.length_filterMap_le _ _)
  · exact Nat.zero_le _

/-- Some of the events have some of the addresses. -/
theorem length_addressesOf_le {F : Type} {inside others : List (ScrubbedEvent F)}
    (some : inside.Sublist others) : (addressesOf inside).length ≤ (addressesOf others).length := by
  -- The different addresses of some of the events are among those of all.
  have subset : addressesOf inside ⊆ addressesOf others := by
    intro address member
    simp only [addressesOf, List.mem_dedup] at member ⊢
    exact (some.filterMap _).subset member
  exact ((List.nodup_dedup _).subperm subset).length_le

/-- A longer window counts no less. -/
theorem metricCount_le {inside others : List (ScrubbedEvent (ExtFloat K))}
    (some : inside.Sublist others) (metric : String) :
    metricCount metric inside ≤ metricCount metric others := by
  -- Values and addresses of some of the events are among those of all.
  unfold metricCount
  split
  · exact (metricValues_sublist some metric).length_le
  · exact length_addressesOf_le some

/-- No metric counts more than there are events. -/
theorem metricCount_le_length (metric : String) (inside : List (ScrubbedEvent (ExtFloat K))) :
    metricCount metric inside ≤ inside.length := by
  -- An event contributes at most one value or address.
  unfold metricCount
  split
  · exact length_metricValues_le metric inside
  · exact (List.dedup_sublist _).length_le.trans (List.length_filterMap_le _ _)

/-- Every event has an hour. -/
theorem metricCount_hours (inside : List (ScrubbedEvent (ExtFloat K))) :
    metricCount "login_hour" inside = inside.length :=
  -- Every event has an hour.
  List.length_map _

/-- The newest event is in every window. -/
theorem windowOf_nonempty {F : Type} {events : List (ScrubbedEvent F)} {newest : ScrubbedEvent F}
    (found : newestEvent events = some newest) {duration : Int} (nonneg : 0 ≤ duration)
    (fits : duration ≤ newest.timestamp.micros) : newest ∈ windowOf events duration := by
  -- The newest event is not older than itself, and later than the start by the duration.
  obtain ⟨start, started⟩ := DateTime.exists_minus nonneg fits
  have moved := (DateTime.minus_eq_ok started).2.2.2
  rw [DateTime.later_swap] at moved
  rw [windowOf_newest found, recent]
  refine List.mem_filter.mpr ⟨newestEvent_mem found, ?_⟩
  simp only [inWindow, started, DateTime.later_self, le_refl, decide_true, Bool.and_true, decide_eq_true_eq]
  omega

/-- Of each metric a longer window holds no fewer values or addresses. -/
def CountsNest (events : List (ScrubbedEvent (ExtFloat K))) : Prop :=
  -- The hour is inside the day and the day inside the week, in each count.
  ∀ metric ∈ metrics,
    metricCount metric (windowOf events hourMicros) ≤ metricCount metric (windowOf events (24 * hourMicros)) ∧
    metricCount metric (windowOf events (24 * hourMicros)) ≤ metricCount metric (windowOf events (7 * dayMicros))

/-- The counts nest where the windows do, as those of a newest event do whose offset never changes. -/
theorem WindowsNest.countsNest {events : List (ScrubbedEvent (ExtFloat K))}
    {newest : ScrubbedEvent (ExtFloat K)} (found : newestEvent events = some newest)
    (nest : WindowsNest newest.timestamp events) : CountsNest events := by
  -- Each window holds some of the events of the next longer one.
  intro metric _
  simp only [windowOf_newest found]
  exact ⟨metricCount_le nest.sublists.1 metric, metricCount_le nest.sublists.2 metric⟩

/-! ### What is returned -/

variable [LinearOrder K]

/-- Features of some events that are well formed, given how much they count of each metric in each
window. -/
structure WellFormedFeatures (events : List (ScrubbedEvent (ExtFloat K)))
    (count : String → String → Nat) (features : Dict String (ExtFloat K)) : Prop where
  /-- The features have the fixed names in the fixed order. -/
  keys : features.keys = featureKeys
  /-- What is counted is stored. -/
  counts : ∀ window ∈ windows, ∀ metric ∈ metrics,
    features.get? (featureKey metric window.1 "_count") = some (.finite (count metric window.1 : K))
  /-- A longer window counts no less. -/
  nested : ∀ metric ∈ metrics,
    count metric "1h" ≤ count metric "24h" ∧ count metric "24h" ≤ count metric "7d"
  /-- No metric counts more than the hours of the day. -/
  atMost : ∀ window ∈ windows, ∀ metric ∈ metrics,
    count metric window.1 ≤ count "login_hour" window.1
  /-- Each window of some events counts an hour. -/
  nonempty : events ≠ [] → ∀ window ∈ windows, 1 ≤ count "login_hour" window.1
  /-- A mean lies between the least and the greatest value, and a deviation is at most half as large as
  the difference of these. -/
  spread : ∀ window ∈ windows, ∀ metric ∈ valuedMetrics, 0 < count metric window.1 →
    ∃ mean std least greatest : K,
      features.get? (featureKey metric window.1 "_mean") = some (.finite mean) ∧
      features.get? (featureKey metric window.1 "_std") = some (.finite std) ∧
      IsLeast {x | x ∈ metricValues metric (windowOf events window.2)} least ∧
      IsGreatest {x | x ∈ metricValues metric (windowOf events window.2)} greatest ∧
      least ≤ mean ∧ mean ≤ greatest ∧ 0 ≤ std ∧ std ≤ (greatest - least) / 2

omit [Field K] in
/-- Values have a least and a greatest one unless there are none. -/
theorem exists_least_greatest {values : List K} (nonempty : values ≠ []) :
    ∃ least greatest, IsLeast {x | x ∈ values} least ∧ IsGreatest {x | x ∈ values} greatest := by
  -- There are finitely many values.
  have finite := values.finite_toSet
  have inhabited : {x | x ∈ values}.Nonempty := List.exists_mem_of_ne_nil values nonempty
  obtain ⟨least, leastIn, least_le⟩ := Set.exists_min_image _ id finite inhabited
  obtain ⟨greatest, greatestIn, le_greatest⟩ := Set.exists_max_image _ id finite inhabited
  exact ⟨least, greatest, ⟨leastIn, least_le⟩, ⟨greatestIn, le_greatest⟩⟩

variable [IsStrictOrderedRing K] [SquareRoot K]

omit [LinearOrder K] [IsStrictOrderedRing K] in
/-- The summaries of some events count their values and their addresses. -/
theorem exactWindow_count (inside : List (ScrubbedEvent (ExtFloat K))) : ∀ metric ∈ metrics,
    ((exactWindow inside).metric metric).count = metricCount metric inside := by
  -- One metric at a time.
  simp [metrics, exactWindow, summariesWith, WindowStats.metric, exactStats, metricCount,
    valuedMetrics]

variable [LawfulSquareRoot K]

/-- The mean and the deviation of some numbers lie within the bounds of the numbers. -/
theorem exactStats_spread {values : List K} (nonempty : values ≠ []) :
    ∃ mean std least greatest : K, (exactStats values).mean = .finite mean ∧
      (exactStats values).std = .finite std ∧ IsLeast {x | x ∈ values} least ∧
      IsGreatest {x | x ∈ values} greatest ∧
      least ≤ mean ∧ mean ≤ greatest ∧ 0 ≤ std ∧ std ≤ (greatest - least) / 2 := by
  -- The deviation is bounded by the inequality about bounded numbers.
  obtain ⟨least, greatest, isLeast, isGreatest⟩ := exists_least_greatest nonempty
  have between : ∀ x ∈ values, least ≤ x ∧ x ≤ greatest := fun x member =>
    ⟨isLeast.2 member, isGreatest.2 member⟩
  obtain ⟨lower, upper⟩ := mean_between nonempty between
  exact ⟨_, _, least, greatest, rfl, rfl, isLeast, isGreatest, lower, upper,
    LawfulSquareRoot.sqrt_nonneg _, deviation_le nonempty between⟩

/-- The summaries of the three windows are well formed. -/
theorem windowSummaries_wellFormed {events : List (ScrubbedEvent (ExtFloat K))}
    (finite : ∀ x ∈ durationsOf events, x.IsFinite) (nest : CountsNest events)
    (inhabited : events ≠ [] → ∃ newest, newestEvent events = some newest ∧
      7 * dayMicros ≤ newest.timestamp.micros) :
    WellFormedFeatures events
      (fun metric window => ((windowSummaries events window).metric metric).count)
      (featuresOf (windowSummaries events)) := by
  -- All that is asked is asked of the counts and the summaries of the three windows.
  have exact := fun window windowIn => (windowSummaries_exact finite window windowIn).2
  generalize windowSummaries events = summaries at exact ⊢
  have counted : ∀ window ∈ windows, ∀ metric ∈ metrics,
      ((summaries window.1).metric metric).count = metricCount metric (windowOf events window.2) := by
    intro window windowIn metric metricIn
    rw [exact window windowIn, exactWindow_count _ metric metricIn]
  have hours : "login_hour" ∈ metrics := by simp [metrics]
  refine ⟨featuresOf_keys summaries, ?_, ?_, ?_, ?_, ?_⟩
  · intro window windowIn metric metricIn
    exact (featuresOf_get? summaries windowIn metricIn).2.2
  · intro metric metricIn
    have hourly := counted ("1h", hourMicros) (by simp [windows]) metric metricIn
    have daily := counted ("24h", 24 * hourMicros) (by simp [windows]) metric metricIn
    have weekly := counted ("7d", 7 * dayMicros) (by simp [windows]) metric metricIn
    rw [hourly, daily, weekly]
    exact nest metric metricIn
  · intro window windowIn metric metricIn
    rw [counted window windowIn metric metricIn, counted window windowIn _ hours, metricCount_hours]
    exact metricCount_le_length metric _
  · intro nonempty window windowIn
    obtain ⟨newest, found, fits⟩ := inhabited nonempty
    have durations : ∀ window ∈ windows, 0 ≤ window.2 ∧ window.2 ≤ 7 * dayMicros := by decide
    obtain ⟨nonneg, short⟩ := durations window windowIn
    rw [counted window windowIn _ hours, metricCount_hours]
    exact List.length_pos_of_mem (windowOf_nonempty found nonneg (short.trans fits))
  · intro window windowIn metric valued positive
    have metricIn : metric ∈ metrics := by
      have part : ∀ metric ∈ valuedMetrics, metric ∈ metrics := by decide
      exact part metric valued
    have values : metricValues metric (windowOf events window.2) ≠ [] := by
      rw [counted window windowIn metric metricIn, metricCount, if_pos valued] at positive
      exact List.length_pos_iff.mp positive
    obtain ⟨mean, std, least, greatest, isMean, isStd, bounds⟩ := exactStats_spread values
    rw [← exactWindow_metric _ metric valued, ← exact window windowIn] at isMean isStd
    obtain ⟨readMean, readStd, -⟩ := featuresOf_get? summaries windowIn metricIn
    rw [isMean] at readMean
    rw [isStd] at readStd
    exact ⟨mean, std, least, greatest, readMean, readStd, bounds⟩

/-- Comparable events of finite durations that have features have those of their windows, in which the count
of hours is the number of events in the window. -/
theorem computeAggregates_hours {events : List (ScrubbedEvent (ExtFloat K))}
    {newest : ScrubbedEvent (ExtFloat K)} (comparable : ComparableTimes events)
    (found : newestEvent events = some newest) (finite : ∀ x ∈ durationsOf events, x.IsFinite)
    (fits : 7 * dayMicros ≤ newest.timestamp.micros) :
    computeAggregates events = .ok (featuresOf (windowSummaries events)) ∧ ∀ window ∈ windows,
      (featuresOf (windowSummaries events)).get? (featureKey "login_hour" window.1 "_count") =
        some (.finite ((windowOf events window.2).length : K)) := by
  -- Every event has an hour.
  refine ⟨(computeAggregates_exact comparable found finite).mpr ⟨fits, rfl⟩, fun window windowIn => ?_⟩
  have metricIn : "login_hour" ∈ metrics := by simp [metrics]
  rw [(featuresOf_get? _ windowIn metricIn).2.2, (windowSummaries_exact finite window windowIn).2,
    exactWindow_count _ _ metricIn, metricCount_hours]
  rfl

omit [LawfulSquareRoot K] in
/-- The features of no events are those of their windows. -/
theorem emptyFeatures_exact : (emptyFeatures : Dict String (ExtFloat K)) =
    featuresOf (windowSummaries []) := by
  -- Counting no addresses gives the zero that is stored without events.
  have zero : (0.0 : ExtFloat K) = .finite ((0 : ℕ) : K) := by
    rw [Nat.cast_zero]
    exact congrArg ExtFloat.finite update_literals.1
  have addresses : (⟨0.0, 0.0, 0⟩ : Stats (ExtFloat K)) = ⟨.finite ((0 : ℕ) : K), 0.0, 0⟩ := by
    rw [← zero]
  rw [emptyFeatures_eq]
  refine congrArg featuresOf (funext fun _ => ?_)
  show (⟨_, _, _, ⟨0.0, 0.0, 0⟩⟩ : WindowStats (ExtFloat K)) =
    ⟨_, _, _, ⟨.finite ((0 : ℕ) : K), 0.0, 0⟩⟩
  rw [addresses]

/-- What well-formed features count is what the windows hold. -/
theorem WellFormedFeatures.countsNest {events : List (ScrubbedEvent (ExtFloat K))}
    {count : String → String → Nat} (finite : ∀ x ∈ durationsOf events, x.IsFinite)
    (wellFormed : WellFormedFeatures events count (featuresOf (windowSummaries events))) :
    CountsNest events := by
  -- The stored counts are those of the summaries, and no two numbers are stored alike.
  have counted : ∀ window ∈ windows, ∀ metric ∈ metrics,
      count metric window.1 = metricCount metric (windowOf events window.2) := by
    intro window windowIn metric metricIn
    have stored := wellFormed.counts window windowIn metric metricIn
    rw [(featuresOf_get? (windowSummaries events) windowIn metricIn).2.2,
      (windowSummaries_exact finite window windowIn).2, exactWindow_count _ metric metricIn] at stored
    exact (Nat.cast_injective (ExtFloat.finite.inj (Option.some.inj stored))).symm
  intro metric metricIn
  have nested := wellFormed.nested metric metricIn
  rwa [counted ("1h", hourMicros) (by simp [windows]) metric metricIn,
    counted ("24h", 24 * hourMicros) (by simp [windows]) metric metricIn,
    counted ("7d", 7 * dayMicros) (by simp [windows]) metric metricIn] at nested

/-- An event at the start of year 1. -/
def yearOneEvent : ScrubbedEvent (ExtFloat ℝ) :=
  -- Its week would start before the year one.
  ⟨1, .yearOne, "auth", 0, none, none, none, none⟩

/-- An event on Samoa on the last day of 2011, ten minutes past one. -/
def samoaEvent : ScrubbedEvent (ExtFloat ℝ) :=
  -- 01:10 on the day after the skipped one.
  ⟨1, ⟨734501 * dayMicros + 70 * 60000000, .zone .apia false, by decide⟩, "auth", 1, none, none, none, none⟩

/-- An event forty minutes before that, given in UTC. -/
def samoaUtcEvent : ScrubbedEvent (ExtFloat ℝ) :=
  -- On the skipped day in Samoa.
  ⟨1, .utc (734500 * dayMicros + 630 * 60000000) (by decide), "auth", 10, none, none, none, none⟩

end Absm
