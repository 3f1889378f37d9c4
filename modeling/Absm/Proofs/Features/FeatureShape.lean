import Absm.Proofs.Features.Aggregates
import Absm.Proofs.Features.Sessions

/-! The features of some events are the summaries of three windows, under thirty-six fixed keys. -/

namespace Absm

variable {F : Type}

/-! ### Keys -/

/-- The parts of a summary, as they end the names of features. -/
def featureParts : List String :=
  -- The three numbers of a summary.
  ["_mean", "_std", "_count"]

/-- The name of a part of the summary of a metric in a window. -/
def featureKey (metric window part : String) : String :=
  -- As the format string in `computeAggregates` spells it.
  metric ++ "_" ++ window ++ part

/-- The names of the features of one window. -/
def windowKeys (window : String) : List String :=
  -- Metric by metric, each with its three numbers.
  metrics.flatMap fun metric => featureParts.map (featureKey metric window)

/-- The names of all features, in their order. -/
def featureKeys : List String :=
  -- Window by window.
  windows.flatMap fun window => windowKeys window.1

/-- No two features share a name. -/
theorem featureKeys_nodup : featureKeys.Nodup := by
  -- The keys are a fixed list.
  decide +kernel

/-! ### The newest event -/

/-- The event that `max` finds: each is kept until a later one comes. -/
def newestEvent : List (ScrubbedEvent F) → Option (ScrubbedEvent F)
  -- As `max` finds it: the first one that no later one is after.
  | [] => none
  | event :: events => some (runningMax earlier event events)

/-- The events of the window that ends at the newest event. -/
def windowOf (events : List (ScrubbedEvent F)) (duration : Int) : List (ScrubbedEvent F) :=
  -- No events give an empty window.
  (newestEvent events).elim [] fun newest => recent newest.timestamp duration events

/-- The newest event is one of the events. -/
theorem newestEvent_mem {events : List (ScrubbedEvent F)} {newest : ScrubbedEvent F}
    (found : newestEvent events = some newest) : newest ∈ events := by
  -- A running maximum ends with one of the items.
  cases events with
  | nil => cases found
  | cons event events => exact Option.some.inj found ▸ runningMax_mem earlier event events

/-- Of some events one is among the newest when none is later. -/
def Newest (events : List (ScrubbedEvent F)) (newest : ScrubbedEvent F) : Prop :=
  -- Another event at the same instant may stand beside it.
  newest ∈ events ∧ ∀ event ∈ events, earlier newest event = false

/-- Where the timestamps order the events, none is later than the one that `max` finds. -/
theorem newest_of_newestEvent {events : List (ScrubbedEvent F)} {newest : ScrubbedEvent F}
    (transitive : TransitiveTimes events) (found : newestEvent events = some newest) :
    Newest events newest := by
  refine ⟨newestEvent_mem found, fun event member => ?_⟩
  -- The events are compared by their ranks, and the rank that is kept is the greatest.
  cases events with
  | nil => cases found
  | cons first rest =>
    have compares := transitive.orders.comparesBy
    have upper := (firstGreatest_spec ((runningMax_firstGreatest compares).trans found)).2 event member
    exact Bool.eq_false_iff.mpr fun less =>
      absurd ((compares newest (newestEvent_mem found) event member).mp less) (not_lt.mpr upper)

/-- Where no offset ever changes, `max` finds the first event at the latest instant. -/
theorem newestEvent_of_constant {events : List (ScrubbedEvent F)}
    (constant : ∀ event ∈ events, event.timestamp.tzinfo.Constant) :
    newestEvent events = firstGreatest (fun event => event.timestamp.clock) events := by
  cases events with
  | nil => rfl
  | cons event events =>
    -- The timestamps are compared by their instants.
    refine (runningMax_firstGreatest fun left _ right rightIn => ?_).symm
    rw [earlier, decide_eq_true_eq, DateTime.later_of_constant (constant right rightIn)]
    omega

/-- The events of a window are some of the events. -/
theorem windowOf_sublist (events : List (ScrubbedEvent F)) (duration : Int) :
    (windowOf events duration).Sublist events := by
  -- Windows are filtered out of the events.
  unfold windowOf
  cases newestEvent events with
  | none => exact List.nil_sublist events
  | some newest => exact recent_sublist newest.timestamp duration events

/-- The latest of comparable timestamps is that of the newest event. -/
theorem latest_newest {event : ScrubbedEvent F} {events : List (ScrubbedEvent F)}
    (comparable : ComparableTimes (event :: events)) :
    ∃ newest, newestEvent (event :: events) = some newest ∧
      DateTime.latest event.timestamp (events.map ScrubbedEvent.timestamp) = .ok newest.timestamp := by
  refine ⟨_, rfl, ?_⟩
  -- Each event is compared with the newest one so far, which it displaces when it is later.
  induction events generalizing event with
  | nil => rfl
  | cons other events ih =>
    have kinds := (comparableTimes_iff _).mp comparable
    have kind := kinds other (by simp) event (by simp)
    have swap := DateTime.later_swap event.timestamp other.timestamp
    have isLater : (0 < other.timestamp.later event.timestamp) ↔ earlier event other = true := by
      rw [earlier, decide_eq_true_eq]
      omega
    rw [List.map_cons, DateTime.latest, DateTime.gt, if_pos kind, ok_bind, runningMax]
    simp only [isLater, Bool.decide_eq_true]
    cases displaced : earlier event other with
    | true =>
      exact ih fun left leftIn right rightIn =>
        comparable left (List.mem_cons_of_mem _ leftIn) right (List.mem_cons_of_mem _ rightIn)
    | false =>
      have fewer : event :: events ⊆ event :: other :: events :=
        List.cons_subset_cons _ (List.subset_cons_self _ _)
      exact ih fun left leftIn right rightIn => comparable left (fewer leftIn) right (fewer rightIn)

/-- Events have a newest one unless there are none. -/
theorem newestEvent_eq_none {events : List (ScrubbedEvent F)} (none : newestEvent events = none) :
    events = [] := by
  -- Of some events one is found.
  cases events with
  | nil => rfl
  | cons event events => cases none

/-- The events in the window of the newest event are the recent ones. -/
theorem windowOf_newest {events : List (ScrubbedEvent F)} {newest : ScrubbedEvent F}
    (found : newestEvent events = some newest) (duration : Int) :
    windowOf events duration = recent newest.timestamp duration events := by
  -- The window is looked for from the event that is found.
  rw [windowOf, found]
  rfl

/-! ### Summaries -/

/-- The summaries of the four metrics in one window. -/
structure WindowStats (F : Type) where
  /-- Of the hours of the day. -/
  hours : Stats F
  /-- Of the lengths of the sessions. -/
  durations : Stats F
  /-- Of the amounts of data. -/
  bytes : Stats F
  /-- Of the addresses, which are only counted. -/
  addresses : Stats F

/-- The summary of a metric. -/
def WindowStats.metric (summaries : WindowStats F) : String → Stats F
  -- The fourth metric is the addresses.
  | "login_hour" => summaries.hours
  | "session_duration_s" => summaries.durations
  | "bytes_out" => summaries.bytes
  | _ => summaries.addresses

variable [Statistics F]

/-- The features of one metric in a window. -/
def statsEntries (metric window : String) (summary : Stats F) : List (String × F) :=
  -- The count is converted to a float.
  [(featureKey metric window "_mean", summary.mean), (featureKey metric window "_std", summary.std),
    (featureKey metric window "_count", Statistics.ofCount summary.count)]

/-- The features of one window. -/
def WindowStats.entries (window : String) (summaries : WindowStats F) : List (String × F) :=
  -- Metric by metric, as in `windowKeys`.
  metrics.flatMap fun metric => statsEntries metric window (summaries.metric metric)

/-- Store the features of one window. -/
def WindowStats.store (window : String) (summaries : WindowStats F) (features : Dict String F) :
    Dict String F :=
  -- Later entries overwrite earlier ones.
  (summaries.entries window).foldl (fun features entry => features.set entry.1 entry.2) features

/-- The features that summaries of all windows make up. -/
def featuresOf (summaries : String → WindowStats F) : Dict String F :=
  -- The three windows after each other.
  .ofList (windows.flatMap fun window => (summaries window.1).entries window.1)

/-- The features are the summaries, window by window and metric by metric. -/
theorem featuresOf_entries (summaries : String → WindowStats F) :
    (featuresOf summaries).entries =
      windows.flatMap fun window => (summaries window.1).entries window.1 :=
  -- The names do not depend on what is summarized.
  Dict.ofList_entries featureKeys_nodup

/-- The features are those of one window stored after those of another. -/
theorem featuresOf_eq_store (summaries : String → WindowStats F) :
    featuresOf summaries = (summaries "7d").store "7d" ((summaries "24h").store "24h"
      ((summaries "1h").store "1h" .empty)) := by
  -- The fold over the entries goes window by window.
  simp only [featuresOf, Dict.ofList, windows, List.flatMap_cons, List.flatMap_nil, List.append_nil,
    List.foldl_append, WindowStats.store]

/-- The features have the same names in the same order, whatever is summarized. -/
theorem featuresOf_keys (summaries : String → WindowStats F) :
    (featuresOf summaries).keys = featureKeys := by
  -- The entries come in the order of the keys.
  rw [Dict.keys, featuresOf_entries]
  rfl

/-- Each part of a summary can be read under its name. -/
theorem featuresOf_get? (summaries : String → WindowStats F) {window : String × Int}
    (windowIn : window ∈ windows) {metric : String} (metricIn : metric ∈ metrics) :
    (featuresOf summaries).get? (featureKey metric window.1 "_mean") =
        some ((summaries window.1).metric metric).mean ∧
      (featuresOf summaries).get? (featureKey metric window.1 "_std") =
        some ((summaries window.1).metric metric).std ∧
      (featuresOf summaries).get? (featureKey metric window.1 "_count") =
        some (Statistics.ofCount ((summaries window.1).metric metric).count) := by
  -- Names are distinct, so each entry is the one that is read under its name.
  have read : ∀ entry ∈ statsEntries metric window.1 ((summaries window.1).metric metric),
      (featuresOf summaries).get? entry.1 = some entry.2 := by
    intro entry member
    rw [← Dict.mem_entries_iff, featuresOf_entries]
    exact List.mem_flatMap.mpr ⟨window, windowIn, List.mem_flatMap.mpr ⟨metric, metricIn, member⟩⟩
  simp only [statsEntries, List.forall_mem_cons] at read
  exact ⟨read.1, read.2.1, read.2.2.1⟩

/-- Features agree in a window whose summaries are the same. -/
theorem featuresOf_window {summaries others : String → WindowStats F}
    {window : String × Int} (windowIn : window ∈ windows)
    (same : summaries window.1 = others window.1) :
    ∀ key ∈ windowKeys window.1, (featuresOf summaries).get? key = (featuresOf others).get? key := by
  -- A name of the window consists of a metric and one of three parts.
  intro key member
  obtain ⟨metric, metricIn, part⟩ := List.mem_flatMap.mp member
  obtain ⟨mean, std, count⟩ := featuresOf_get? summaries windowIn metricIn
  obtain ⟨otherMean, otherStd, otherCount⟩ := featuresOf_get? others windowIn metricIn
  rw [← same] at otherMean otherStd otherCount
  simp only [featureParts, List.map_cons, List.map_nil, List.mem_cons, List.not_mem_nil,
    or_false] at part
  rcases part with rfl | rfl | rfl
  · rw [mean, otherMean]
  · rw [std, otherStd]
  · rw [count, otherCount]

/-- Features are equal exactly when each metric has the same features in each window. -/
theorem featuresOf_eq_iff (summaries others : String → WindowStats F) :
    featuresOf summaries = featuresOf others ↔ ∀ window ∈ windows, ∀ metric ∈ metrics,
      statsEntries metric window.1 ((summaries window.1).metric metric) =
        statsEntries metric window.1 ((others window.1).metric metric) := by
  -- Equal features are read alike, and equal entries make up equal dictionaries.
  constructor
  · intro same window windowIn metric metricIn
    obtain ⟨mean, std, count⟩ := featuresOf_get? summaries windowIn metricIn
    obtain ⟨otherMean, otherStd, otherCount⟩ := featuresOf_get? others windowIn metricIn
    rw [same] at mean std count
    rw [statsEntries, Option.some.inj (mean.symm.trans otherMean),
      Option.some.inj (std.symm.trans otherStd), Option.some.inj (count.symm.trans otherCount)]
    rfl
  · intro same
    apply Dict.ext
    rw [featuresOf_entries, featuresOf_entries]
    refine List.flatMap_congr fun window windowIn => ?_
    exact List.flatMap_congr fun metric metricIn => same window windowIn metric metricIn

/-! ### Computing them -/

variable [OfScientific F]

/-- Summarize the events of one window. -/
def windowStats (inside : List (ScrubbedEvent F)) : Except PyError (WindowStats F) := do
  -- Hours and amounts are converted before anything is averaged.
  let hours ← inside.mapM fun event => Statistics.ofInt event.loginHour
  let bytes ← (bytesOf inside).mapM Statistics.ofInt
  let hours ← stats hours
  let durations ← stats (durationsOf inside)
  let bytes ← stats bytes
  let count := (addressesOf inside).length
  return ⟨hours, durations, bytes, ⟨Statistics.ofCount count, 0.0, count⟩⟩

/-- The features of a window are its summaries, stored. -/
theorem windowFeatures_eq_store (window : String) (inside : List (ScrubbedEvent F))
    (features : Dict String F) :
    windowFeatures window inside features =
      (windowStats inside).map fun summaries => summaries.store window features := by
  -- Both computations go through the same steps, and one of them stores as it goes.
  show _ = (fun summaries => WindowStats.store window summaries features) <$> windowStats inside
  simp only [windowStats, map_bind, map_pure]
  rfl

/-- The features since a reference time are the summaries of the events in each window. -/
theorem recentFeatures_eq_ok {reference : DateTime} {events : List (ScrubbedEvent F)}
    {features : Dict String F} :
    recentFeatures reference events = .ok features ↔ ∃ summaries : String → WindowStats F,
      (∀ window ∈ windows,
        windowStats (recent reference window.2 events) = .ok (summaries window.1)) ∧
      features = featuresOf summaries := by
  -- The windows are stored one after another, under names of their own.
  simp only [recentFeatures, windowFeatures_eq_store]
  constructor
  · intro returned
    obtain ⟨first, firstStored, returned⟩ := bind_eq_ok.mp returned
    obtain ⟨second, secondStored, thirdStored⟩ := bind_eq_ok.mp returned
    obtain ⟨hourly, hourlyRead, rfl⟩ := map_eq_ok.mp firstStored
    obtain ⟨daily, dailyRead, rfl⟩ := map_eq_ok.mp secondStored
    obtain ⟨weekly, weeklyRead, rfl⟩ := map_eq_ok.mp thirdStored
    refine ⟨fun window => if window = "1h" then hourly else if window = "24h" then daily else weekly,
      ?_, ?_⟩
    · simpa [windows] using ⟨hourlyRead, dailyRead, weeklyRead⟩
    · simp [featuresOf_eq_store]
  · intro found
    obtain ⟨summaries, read, rfl⟩ := found
    simp only [windows, List.forall_mem_cons] at read
    obtain ⟨hourlyRead, dailyRead, weeklyRead, -⟩ := read
    rw [hourlyRead, dailyRead, weeklyRead, featuresOf_eq_store]
    rfl

/-- The summaries of nothing. -/
def WindowStats.zero : WindowStats F :=
  -- Nothing was measured.
  ⟨⟨0.0, 0.0, 0⟩, ⟨0.0, 0.0, 0⟩, ⟨0.0, 0.0, 0⟩, ⟨0.0, 0.0, 0⟩⟩

/-- Without events the features are the summaries of nothing. -/
theorem emptyFeatures_eq : (emptyFeatures : Dict String F) = featuresOf fun _ => .zero :=
  -- Both sides are the same list of entries.
  rfl

/-! ### From the newest event on -/

/-- The summaries of some events in the window of a name, as far as there are any. -/
def windowSummaries (events : List (ScrubbedEvent F)) (name : String) : WindowStats F :=
  -- A window that cannot be summarised counts as empty here.
  (windowStats (windowOf events ((lookupEntry name windows).getD 0))).toOption.getD .zero

/-- Each window has the summaries of its events. -/
theorem windowSummaries_eq (events : List (ScrubbedEvent F)) : ∀ window ∈ windows,
    windowSummaries events window.1 =
      (windowStats (windowOf events window.2)).toOption.getD .zero := by
  -- Three windows, each found by its name.
  simp [windows, windowSummaries, lookupEntry]

/-- Comparable events have features exactly when the week before the newest one starts in year 1 or later
and the events of each window can be summarized. -/
theorem computeAggregates_eq_ok_iff {events : List (ScrubbedEvent F)} {newest : ScrubbedEvent F}
    (comparable : ComparableTimes events) (found : newestEvent events = some newest)
    {features : Dict String F} :
    computeAggregates events = .ok features ↔ 7 * dayMicros ≤ newest.timestamp.micros ∧
      (∀ window ∈ windows, ∃ summaries,
        windowStats (windowOf events window.2) = .ok summaries) ∧
      features = featuresOf (windowSummaries events) := by
  -- The summaries that were found are those that the windows have.
  have summarized : recentFeatures newest.timestamp events = .ok features ↔
      (∀ window ∈ windows, ∃ summaries,
        windowStats (windowOf events window.2) = .ok summaries) ∧
      features = featuresOf (windowSummaries events) := by
    have read := windowSummaries_eq events
    simp only [recentFeatures_eq_ok, windowOf_newest found] at read ⊢
    constructor
    · intro computed
      obtain ⟨summaries, each, rfl⟩ := computed
      refine ⟨fun window windowIn => ⟨_, each window windowIn⟩, (featuresOf_eq_iff _ _).mpr ?_⟩
      intro window windowIn metric _
      rw [read window windowIn, each window windowIn]
      rfl
    · intro both
      refine ⟨windowSummaries events, fun window windowIn => ?_, both.2⟩
      obtain ⟨summaries, each⟩ := both.1 window windowIn
      rw [read window windowIn, each]
      rfl
  rw [← summarized]
  -- The reference time is that of the newest event.
  cases events with
  | nil => cases found
  | cons event events =>
    obtain ⟨first, same, latest⟩ := latest_newest comparable
    obtain rfl := Option.some.inj (same.symm.trans found)
    constructor
    · intro returned
      obtain ⟨reference, again, fits, computed⟩ := computeAggregates_eq_ok returned
      obtain rfl := Except.ok.inj (again.symm.trans latest)
      exact ⟨fits, computed⟩
    · intro both
      rw [computeAggregates_eq latest both.1]
      exact both.2

end Absm
