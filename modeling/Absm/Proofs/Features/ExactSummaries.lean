import Absm.Foundation.Spread
import Absm.Proofs.Features.FeatureShape
import Absm.Proofs.Features.FiniteFeatures

/-! In exact arithmetic every window has summaries: those of its values. -/

namespace Absm

variable {K : Type}

/-! ### Values -/

/-- The values of exact floats. -/
@[simp] theorem finiteValues_map (values : List K) :
    ExtFloat.finiteValues (values.map ExtFloat.finite) = values := by
  -- All of the values are finite.
  rw [ExtFloat.finiteValues, List.filterMap_map]
  exact List.filterMap_some

/-- Finite floats are the floats of their values. -/
theorem map_finiteValues {data : List (ExtFloat K)} (allFinite : ∀ x ∈ data, x.IsFinite) :
    (ExtFloat.finiteValues data).map ExtFloat.finite = data := by
  -- No float is left out.
  induction data with
  | nil => rfl
  | cons x data ih =>
    obtain ⟨value, rfl⟩ := (allFinite x (List.mem_cons_self ..)).exists
    have rest := ih fun other member => allFinite other (List.mem_cons_of_mem _ member)
    simp only [ExtFloat.finiteValues, List.filterMap_cons, List.map_cons] at rest ⊢
    rw [rest]

/-- The metrics whose values are summarized; addresses are only counted. -/
def valuedMetrics : List String :=
  -- The metrics that have values, in the order of the source.
  ["login_hour", "session_duration_s", "bytes_out"]

variable [Field K]

/-- The values of a metric among some events. -/
def metricValues (metric : String) (inside : List (ScrubbedEvent (ExtFloat K))) : List K :=
  -- Addresses are counted and have no values.
  match metric with
  | "login_hour" => inside.map fun event => (event.loginHour : K)
  | "session_duration_s" => ExtFloat.finiteValues (durationsOf inside)
  | "bytes_out" => (bytesOf inside).map fun amount : Int => (amount : K)
  | _ => []

/-! ### Summaries -/

variable [LinearOrder K] [IsStrictOrderedRing K] [SquareRoot K] [LawfulSquareRoot K]

/-- The summary of exact numbers; without any it is zero. -/
def exactStats (values : List K) : Stats (ExtFloat K) :=
  -- The population variance, as `pstdev` divides by the count.
  ⟨.finite (values.sum / values.length), .finite (SquareRoot.sqrt (ExtFloat.variance values)),
    values.length⟩

/-- Exact numbers are summarized by their mean and their deviation. -/
theorem stats_exact (values : List K) :
    stats (values.map ExtFloat.finite) = .ok (exactStats values) := by
  have zero : (0.0 : ExtFloat K) = .finite 0 := congrArg ExtFloat.finite update_literals.1
  have allFinite : ∀ x ∈ values.map ExtFloat.finite, x.IsFinite := by
    intro x member
    obtain ⟨value, -, rfl⟩ := List.mem_map.mp member
    trivial
  rcases values with _ | ⟨first, rest⟩
  · -- Nothing is summarized by zeros.
    simp [stats, exactStats, zero, ExtFloat.variance, sqrt_zero]
  have nonempty : (first :: rest).map ExtFloat.finite ≠ [] := by simp
  have mean : Statistics.fmean ((first :: rest).map ExtFloat.finite) =
      .ok (exactStats (first :: rest)).mean := by
    obtain ⟨noInfinity, noNegInfinity, noNan⟩ := ExtFloat.special_not_mem allFinite
    show ExtFloat.fmean _ = _
    rw [ExtFloat.fmean, if_neg nonempty, ExtFloat.fsum, if_neg fun both => noInfinity both.1,
      if_neg noNan, if_neg noInfinity, if_neg noNegInfinity, finiteValues_map, List.length_map]
    exact congrArg (fun mean => Except.ok (ExtFloat.finite mean)) (div_eq_mul_inv _ _).symm
  have deviation : Statistics.pstdev ((first :: rest).map ExtFloat.finite) =
      .ok (exactStats (first :: rest)).std := by
    show ExtFloat.pstdev _ = _
    rw [ExtFloat.pstdev, if_neg nonempty, if_pos allFinite, finiteValues_map]
    rfl
  rw [stats, if_neg (by simp), mean, ok_bind]
  by_cases several : 1 < ((first :: rest).map ExtFloat.finite).length
  · rw [if_pos several, deviation, ok_bind, List.length_map]
    rfl
  · -- A single value lies at the mean.
    have single : rest = [] := by
      apply List.eq_nil_of_length_eq_zero
      simp only [List.length_map, List.length_cons] at several
      omega
    rw [if_neg several, ok_bind]
    simp [single, exactStats, zero, ExtFloat.variance, sqrt_zero]

/-- The summaries of some events, given that of their durations. -/
def summariesWith (inside : List (ScrubbedEvent (ExtFloat K))) (durations : Stats (ExtFloat K)) :
    WindowStats (ExtFloat K) :=
  -- The durations are given apart, for they alone can be NaN or infinite.
  let count := (addressesOf inside).length
  ⟨exactStats (metricValues "login_hour" inside), durations,
    exactStats (metricValues "bytes_out" inside), ⟨.finite count, 0.0, count⟩⟩

/-- A window has summaries exactly when its durations have one. -/
theorem windowStats_eq (inside : List (ScrubbedEvent (ExtFloat K))) :
    windowStats inside = (stats (durationsOf inside)).map (summariesWith inside) := by
  -- Hours and amounts of data are converted to exact numbers.
  have hours := stats_exact (metricValues "login_hour" inside)
  have bytes := stats_exact (metricValues "bytes_out" inside)
  have bytesConverted := mapM_ofInt (K := K) id (bytesOf inside)
  simp only [metricValues, List.map_map] at hours bytes
  simp only [id] at bytesConverted
  rw [windowStats, mapM_ofInt, bytesConverted, ok_bind, ok_bind]
  simp only [Function.comp_def] at hours bytes
  rw [hours, bytes, ok_bind]
  cases stats (durationsOf inside) <;> rfl

/-- The summaries of some events. -/
def exactWindow (inside : List (ScrubbedEvent (ExtFloat K))) : WindowStats (ExtFloat K) :=
  -- Here the durations too are exact.
  summariesWith inside (exactStats (metricValues "session_duration_s" inside))

/-- A window with finite durations has summaries. -/
theorem windowStats_exact {inside : List (ScrubbedEvent (ExtFloat K))}
    (allFinite : ∀ x ∈ durationsOf inside, x.IsFinite) :
    windowStats inside = .ok (exactWindow inside) := by
  -- The durations are exact numbers, so they have a summary.
  have durations := stats_exact (metricValues "session_duration_s" inside)
  simp only [metricValues, map_finiteValues allFinite] at durations
  rw [windowStats_eq, durations]
  rfl

omit [LinearOrder K] [IsStrictOrderedRing K] [LawfulSquareRoot K] in
/-- The metrics that have values are summarized by them. -/
theorem exactWindow_metric (inside : List (ScrubbedEvent (ExtFloat K))) :
    ∀ metric ∈ valuedMetrics,
      (exactWindow inside).metric metric = exactStats (metricValues metric inside) := by
  -- One metric at a time.
  simp [valuedMetrics, exactWindow, summariesWith, WindowStats.metric]

/-- The summaries of events with finite durations are those of the values in each window. -/
theorem windowSummaries_exact {events : List (ScrubbedEvent (ExtFloat K))}
    (allFinite : ∀ x ∈ durationsOf events, x.IsFinite) : ∀ window ∈ windows,
    windowStats (windowOf events window.2) = .ok (exactWindow (windowOf events window.2)) ∧
      windowSummaries events window.1 = exactWindow (windowOf events window.2) := by
  -- The events of a window are some of the events.
  intro window windowIn
  have summarized := windowStats_exact fun x member =>
    allFinite x (((windowOf_sublist events window.2).filterMap _).subset member)
  exact ⟨summarized, by rw [windowSummaries_eq events window windowIn, summarized]; rfl⟩

/-- Comparable events with finite durations have features exactly when the week before the newest one
starts in year 1 or later. -/
theorem computeAggregates_exact {events : List (ScrubbedEvent (ExtFloat K))}
    {newest : ScrubbedEvent (ExtFloat K)} (comparable : ComparableTimes events)
    (found : newestEvent events = some newest) (allFinite : ∀ x ∈ durationsOf events, x.IsFinite)
    {features : Dict String (ExtFloat K)} :
    computeAggregates events = .ok features ↔
      7 * dayMicros ≤ newest.timestamp.micros ∧ features = featuresOf (windowSummaries events) := by
  -- Every window can be summarized.
  rw [computeAggregates_eq_ok_iff comparable found]
  refine and_congr_right fun _ => and_iff_right fun window windowIn => ?_
  exact ⟨_, (windowSummaries_exact allFinite window windowIn).1⟩

/-- An event at the start of 1970 with a session of five seconds. -/
def epochEvent : ScrubbedEvent (ExtFloat ℝ) :=
  -- One event with a duration.
  ⟨1, .epoch, "auth", 0, some (.finite 5), none, none, none⟩

/-- The one duration of the event is a number. -/
theorem epochEvent_finite : ∀ x ∈ durationsOf [epochEvent], x.IsFinite := by
  -- Its only duration is a number.
  simp [durationsOf, epochEvent]

end Absm
