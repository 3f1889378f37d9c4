import Absm.Ingest.Normalizer
import Absm.Ingest.PlainRuntime
import Absm.Proofs.Features.FeatureShape
import Absm.Proofs.Models.BaselineUpdates

/-! When the aggregates of accepted events, and with them the baselines, are finite numbers. -/

namespace Absm

variable {K : Type} [Field K] [LinearOrder K]

/-- Every feature is a finite number. -/
def AllFinite (features : Dict String (ExtFloat K)) : Prop :=
  -- Every value that a lookup can find.
  ∀ key value, features.get? key = some value → value.IsFinite

omit [Field K] [LinearOrder K] in
/-- No feature at all is a special value. -/
theorem allFinite_empty : AllFinite (.empty : Dict String (ExtFloat K)) := by
  -- Nothing is found in an empty dictionary.
  intro key value found
  cases found

omit [Field K] [LinearOrder K] in
/-- Setting a feature to a finite number keeps all features finite. -/
theorem AllFinite.set {features : Dict String (ExtFloat K)} (allFinite : AllFinite features)
    {value : ExtFloat K} (isFinite : value.IsFinite) (key : String) :
    AllFinite (features.set key value) := by
  -- A reading after the assignment is the new value or an old one.
  intro other found read
  rw [Dict.get?_set] at read
  split at read
  · cases read
    exact isFinite
  · exact allFinite other found read

/-! ### Baselines -/

/-- A weight that is admitted is a finite number. -/
theorem UpdateCall.admitted_finite {call : UpdateCall (ExtFloat K)} (admitted : call.admitted) :
    call.alpha.IsFinite := by
  -- No special value is both above zero and at most one.
  obtain ⟨positive, atMost⟩ := admitted
  cases special : call.alpha with
  | finite value => exact ExtFloat.isFinite_finite value
  | nan => rw [special] at positive; cases positive
  | infinity => rw [special] at atMost; cases atMost
  | negInfinity => rw [special] at positive; cases positive

/-- From finite numbers the new mean is a finite number on every branch. -/
theorem newMean_finite {alpha oldMean newVal sigma : ExtFloat K} (alphaFinite : alpha.IsFinite)
    (oldFinite : oldMean.IsFinite) (newFinite : newVal.IsFinite) (sigmaFinite : sigma.IsFinite) :
    (newMean alpha oldMean newVal sigma).IsFinite := by
  -- Both branches are sums and products of finite numbers.
  obtain ⟨alpha, rfl⟩ := alphaFinite.exists
  obtain ⟨oldMean, rfl⟩ := oldFinite.exists
  obtain ⟨newVal, rfl⟩ := newFinite.exists
  obtain ⟨sigma, rfl⟩ := sigmaFinite.exists
  unfold newMean
  split
  · split <;> simp [ExtFloat.ofScientific_eq]
  · simp [ExtFloat.ofScientific_eq]

omit [LinearOrder K] in
/-- The literals of the source are finite numbers. -/
theorem isFinite_ofScientific (digits : Nat) (negative : Bool) (exponent : Nat) :
    (OfScientific.ofScientific digits negative exponent : ExtFloat K).IsFinite :=
  -- A literal is a rational number.
  trivial

omit [Field K] [LinearOrder K] in
/-- Reading a feature with a finite fallback gives a finite number. -/
theorem AllFinite.getD {features : Dict String (ExtFloat K)} (allFinite : AllFinite features)
    {fallback : ExtFloat K} (isFinite : fallback.IsFinite) (key : String) :
    (features.getD key fallback).IsFinite := by
  -- What is found is finite, and so is what stands in for it.
  cases found : features.get? key with
  | none => simpa [Dict.getD, found] using isFinite
  | some value => simpa [Dict.getD, found] using allFinite key value found

/-- Finite observations keep a finite profile finite. -/
theorem updateFeatures_finite {alpha : ExtFloat K} (alphaFinite : alpha.IsFinite)
    {vector features : Dict String (ExtFloat K)} (vectorFinite : AllFinite vector)
    (allFinite : AllFinite features) : AllFinite (updateFeatures alpha vector features) := by
  -- The loop preserves finiteness observation by observation.
  have observed : ∀ observation ∈ vector.entries, observation.2.IsFinite := fun observation member =>
    vectorFinite observation.1 observation.2 (Dict.mem_entries_iff.mp member)
  unfold updateFeatures
  generalize vector.entries = observations at observed
  induction observations generalizing features with
  | nil => exact allFinite
  | cons observation observations ih =>
    have newFinite := observed observation (by simp)
    refine ih (allFinite.set (newMean_finite alphaFinite (allFinite.getD newFinite _) newFinite
      (allFinite.getD (isFinite_ofScientific _ _ _) _)) _) fun other member => observed other ?_
    exact List.mem_cons_of_mem _ member

/-- A user's stored profile has finite features only. -/
def FiniteProfile (store : FeatureStore (ExtFloat K)) (userId : String) : Prop :=
  -- A user without a profile is fine.
  ∀ profile, store userId = some profile → AllFinite profile.features

/-- A call with a finite vector on a finite profile stores a finite profile. -/
theorem updateBaseline_finite {call : UpdateCall (ExtFloat K)} (faults : StoreFaults)
    {store : FeatureStore (ExtFloat K)} (vectorFinite : AllFinite call.newFeatureVec)
    (stored : FiniteProfile store call.userId) :
    FiniteProfile (updateBaseline call faults store).2 call.userId := by
  -- Whatever the call raises, the user's profile is the old one or its refreshment.
  intro after found
  rw [updateBaseline_store] at found
  split at found
  case isTrue takes =>
    rw [Function.update_self] at found
    obtain ⟨profile, read, rfl⟩ := Option.map_eq_some_iff.mp found
    exact updateFeatures_finite (UpdateCall.admitted_finite takes.1) vectorFinite (stored profile read)
  case isFalse => exact stored after found

/-! ### Summaries -/

variable [SquareRoot K]

/-- Finite values have a summary, and it is finite. -/
theorem stats_finite {values : List (ExtFloat K)} (allFinite : ∀ x ∈ values, x.IsFinite) :
    ∃ summary, stats values = .ok summary ∧ summary.mean.IsFinite ∧ summary.std.IsFinite := by
  -- The mean and the deviation of finite values are those of exact numbers.
  by_cases empty : values = []
  · exact ⟨⟨0.0, 0.0, 0⟩, by simp [stats, empty], trivial, trivial⟩
  · obtain ⟨mean, averaged⟩ : ∃ mean, Statistics.fmean values = .ok (.finite mean) :=
      ExtFloat.fmean_finite empty allFinite
    obtain ⟨std, deviated⟩ : ∃ std, Statistics.pstdev values = .ok (.finite std) :=
      ExtFloat.pstdev_finite empty allFinite
    by_cases several : 1 < values.length
    · have returned : stats values = .ok ⟨.finite mean, .finite std, values.length⟩ := by
        simp only [stats, List.length_eq_zero_iff, if_neg empty, averaged, ok_bind, if_pos several,
          deviated, pure_eq_ok]
      exact ⟨_, returned, trivial, trivial⟩
    · have returned : stats values = .ok ⟨.finite mean, 0.0, values.length⟩ := by
        simp only [stats, List.length_eq_zero_iff, if_neg empty, averaged, ok_bind, if_neg several,
          pure_eq_ok]
      exact ⟨_, returned, trivial, trivial⟩

/-- Several values have a summary only if they are finite. -/
theorem finite_of_stats {values : List (ExtFloat K)} {summary : Stats (ExtFloat K)}
    (several : 1 < values.length) (returned : stats values = .ok summary) :
    ∀ x ∈ values, x.IsFinite := by
  -- The deviation is taken of several values, and it cannot be taken of special ones.
  have nonempty : values ≠ [] := by
    rintro rfl
    simp at several
  simp only [stats, List.length_eq_zero_iff, if_neg nonempty] at returned
  obtain ⟨mean, _, returned⟩ := bind_eq_ok.mp returned
  obtain ⟨std, deviated, _⟩ := bind_eq_ok.mp returned
  rw [if_pos several] at deviated
  simp only [Statistics.pstdev, ExtFloat.pstdev, if_neg nonempty] at deviated
  split at deviated
  case isTrue allFinite => exact allFinite
  case isFalse => cases deviated

omit [SquareRoot K] in
/-- An infinity with a sign is no finite number, and neither is the one without a sign. -/
theorem signedInfinity_not_finite (sign : K) : ¬ (ExtFloat.signedInfinity sign).IsFinite := by
  -- Every sign gives a value that is no number.
  unfold ExtFloat.signedInfinity
  split
  · exact id
  · split
    · exact id
    · exact id

/-- A single special value has a summary, whose mean is special. -/
theorem stats_special {x : ExtFloat K} (special : ¬ x.IsFinite) :
    ∃ summary, stats [x] = .ok summary ∧ ¬ summary.mean.IsFinite := by
  -- The mean is the value itself, divided by one.
  cases x with
  | finite value => exact absurd trivial special
  | nan => exact ⟨⟨.nan, 0.0, 1⟩, rfl, id⟩
  | infinity =>
    exact ⟨⟨ExtFloat.signedInfinity ((1 : Nat) : K)⁻¹, 0.0, 1⟩, rfl, signedInfinity_not_finite _⟩
  | negInfinity =>
    exact ⟨⟨ExtFloat.signedInfinity (-((1 : Nat) : K)⁻¹), 0.0, 1⟩, rfl, signedInfinity_not_finite _⟩

/-- At most one duration, or numbers only. -/
def Summarizable (durations : List (ExtFloat K)) : Prop :=
  -- A lone duration is returned as it is, so it may be anything.
  durations.length ≤ 1 ∨ ∀ x ∈ durations, x.IsFinite

instance (durations : List (ExtFloat K)) : Decidable (Summarizable durations) :=
  inferInstanceAs (Decidable (_ ∨ _))

omit [Field K] [LinearOrder K] [SquareRoot K] in
/-- Fewer durations are summarizable when all of them are. -/
theorem Summarizable.sublist {durations others : List (ExtFloat K)}
    (summarizable : Summarizable durations) (fewer : others.Sublist durations) :
    Summarizable others :=
  -- With fewer durations the cases stay what they are.
  summarizable.imp fewer.length_le.trans fun finite x member => finite x (fewer.subset member)

/-- Durations have a summary exactly when there is at most one or all of them are numbers. -/
theorem stats_returns_iff (durations : List (ExtFloat K)) :
    (∃ summary, stats durations = .ok summary) ↔ Summarizable durations := by
  constructor
  · intro returned
    obtain ⟨summary, returned⟩ := returned
    by_cases several : 1 < durations.length
    · exact .inr (finite_of_stats several returned)
    · exact .inl (not_lt.mp several)
  · intro summarizable
    by_cases finite : ∀ x ∈ durations, x.IsFinite
    · obtain ⟨summary, returned, -⟩ := stats_finite finite
      exact ⟨summary, returned⟩
    · -- A single special value is its own mean.
      have few := summarizable.resolve_right finite
      rcases durations with _ | ⟨x, _ | ⟨y, rest⟩⟩
      · simp at finite
      · obtain ⟨summary, returned, -⟩ := stats_special (by simpa using finite)
        exact ⟨summary, returned⟩
      · simp at few

/-! ### Aggregates -/

/-- Storing a finite summary keeps the features finite. -/
theorem AllFinite.setStats {features : Dict String (ExtFloat K)}
    (allFinite : AllFinite features) {summary : Stats (ExtFloat K)} (mean : summary.mean.IsFinite)
    (std : summary.std.IsFinite) (metric window : String) :
    AllFinite (Absm.setStats metric window summary features) :=
  -- Three updates, the last with a count.
  ((allFinite.set mean _).set std _).set (ExtFloat.isFinite_finite _) _

/-- Converting integers to floats never fails and gives finite numbers. -/
theorem mapM_ofInt {α : Type} (value : α → Int) (items : List α) :
    (items.mapM fun item => Statistics.ofInt (value item)) =
      (.ok (items.map fun item => ExtFloat.finite (value item : K)) : Except PyError _) := by
  -- The conversion of an integer never fails.
  induction items with
  | nil => rfl
  | cons item items ih => rw [List.mapM_cons, ih]; rfl

omit [LinearOrder K] [SquareRoot K] in
/-- Converted integers are finite numbers. -/
theorem converted_finite {α : Type} (value : α → Int) (items : List α) :
    ∀ x ∈ items.map fun item => ExtFloat.finite (value item : K), x.IsFinite := by
  -- Every member is a finite number by construction.
  intro x member
  obtain ⟨item, _, rfl⟩ := List.mem_map.mp member
  trivial

/-- The features of a window return exactly when the durations have a summary, and then they are
finite exactly when that summary is stored among finite ones. -/
theorem windowFeatures_eq (window : String) (inside : List (ScrubbedEvent (ExtFloat K)))
    (features : Dict String (ExtFloat K)) :
    ∃ hours bytes : Stats (ExtFloat K),
      (hours.mean.IsFinite ∧ hours.std.IsFinite) ∧ (bytes.mean.IsFinite ∧ bytes.std.IsFinite) ∧
      windowFeatures window inside features = (stats (durationsOf inside)).map fun durations =>
        setWindow window hours durations bytes (addressesOf inside).length features := by
  -- Hours and amounts of data are integers, so their summaries exist and are finite.
  obtain ⟨hours, hoursRead, hoursFinite⟩ :=
    stats_finite (converted_finite (K := K) ScrubbedEvent.loginHour inside)
  obtain ⟨bytes, bytesRead, bytesFinite⟩ := stats_finite (converted_finite (K := K) id (bytesOf inside))
  refine ⟨hours, bytes, hoursFinite, bytesFinite, ?_⟩
  have hoursConverted := mapM_ofInt (K := K) ScrubbedEvent.loginHour inside
  have bytesConverted := mapM_ofInt (K := K) id (bytesOf inside)
  simp only [id] at bytesConverted bytesRead
  cases durations : stats (durationsOf inside) with
  | error error =>
    simp only [durationsOf] at durations
    simp only [bytesOf] at bytesConverted
    simp only [windowFeatures, hoursConverted, bytesConverted, hoursRead, durations, ok_bind,
      error_bind, Except.map]
  | ok summary =>
    exact windowFeatures_eq_ok.mpr ⟨_, _, hours, summary, bytes, hoursConverted, bytesConverted,
      hoursRead, durations, bytesRead, rfl⟩

/-- Finite durations give a window finite features. -/
theorem windowFeatures_finite (window : String) {inside : List (ScrubbedEvent (ExtFloat K))}
    {features : Dict String (ExtFloat K)} (durationsFinite : ∀ x ∈ durationsOf inside, x.IsFinite)
    (allFinite : AllFinite features) :
    ∃ result, windowFeatures window inside features = .ok result ∧ AllFinite result := by
  -- Each of the three summaries is finite, and so are the counts.
  obtain ⟨hours, bytes, hoursFinite, bytesFinite, computed⟩ := windowFeatures_eq window inside features
  obtain ⟨durations, read, finite⟩ := stats_finite durationsFinite
  refine ⟨_, by rw [computed, read]; rfl, ?_⟩
  exact (((allFinite.setStats hoursFinite.1 hoursFinite.2 _ _).setStats finite.1 finite.2 _ _).setStats
    bytesFinite.1 bytesFinite.2 _ _).setStats (ExtFloat.isFinite_finite _) (isFinite_ofScientific _ _ _) _ _

/-- Durations that can be summarized give a window features. -/
theorem windowFeatures_returns (window : String) {inside : List (ScrubbedEvent (ExtFloat K))}
    (summarizable : Summarizable (durationsOf inside)) (features : Dict String (ExtFloat K)) :
    ∃ result, windowFeatures window inside features = .ok result := by
  -- Nothing but the summary of the durations can fail.
  obtain ⟨hours, bytes, _, _, computed⟩ := windowFeatures_eq window inside features
  obtain ⟨summary, read⟩ := (stats_returns_iff _).mpr summarizable
  exact ⟨_, by rw [computed, read]; rfl⟩

/-- The lengths of the sessions among the events of a window that ends at some time. -/
def durationsWithin {F : Type} (newest : DateTime) (duration : Int) (events : List (Event F)) : List F :=
  -- Before scrubbing, in the window of the newest timestamp.
  (events.filter fun event => inWindow newest duration event.timestamp).filterMap Event.sessionDurationS

/-- Scrubbing changes neither the times of events nor their durations. -/
theorem durationsOf_recent_scrub {F : Type} (digests : Digests) (newest : DateTime) (duration : Int)
    (events : List (Event F)) :
    durationsOf (recent newest duration (events.map (scrub digests))) =
      durationsWithin newest duration events := by
  -- Scrubbing keeps timestamps and durations, so both sides filter alike.
  simp only [durationsOf, recent, durationsWithin, List.filter_map, List.filterMap_map]
  rfl

/-- The durations of each window can be summarized, those of some window are a special value alone, and the
longest window does not start before year 1. -/
def LoneSpecialDuration : List (Event (ExtFloat K)) → Prop
  -- A window with one duration that is no number passes it on as its mean.
  | [] => False
  | event :: events =>
    ∃ newest, DateTime.latest event.timestamp (events.map Event.timestamp) = .ok newest ∧
      7 * dayMicros ≤ newest.micros ∧
      (∀ window ∈ windows, Summarizable (durationsWithin newest window.2 (event :: events))) ∧
      ∃ window ∈ windows, ∃ x, ¬ x.IsFinite ∧
        durationsWithin newest window.2 (event :: events) = [x]

/-- The aggregates of some events are finite, and so are the baselines that they are merged into. -/
structure FeaturesStayFinite (digests : Digests) (events : List (Event (ExtFloat K))) : Prop where
  /-- Features that are returned are finite numbers. -/
  features : ∀ features, computeAggregates (events.map (scrub digests)) = .ok features →
    AllFinite features
  /-- An update of a finite profile with such features stores a finite profile. -/
  baselines : ∀ features, computeAggregates (events.map (scrub digests)) = .ok features →
    ∀ (call : UpdateCall (ExtFloat K)) (faults : StoreFaults) (store : FeatureStore (ExtFloat K)),
      call.newFeatureVec = features → FiniteProfile store call.userId →
      FiniteProfile (updateBaseline call faults store).2 call.userId

/-- The latest time of some events is that of the scrubbed events. -/
theorem latest_scrub {F : Type} (digests : Digests) (event : Event F) (events : List (Event F)) :
    DateTime.latest (scrub digests event).timestamp
        ((events.map (scrub digests)).map ScrubbedEvent.timestamp) =
      DateTime.latest event.timestamp (events.map Event.timestamp) := by
  -- Scrubbing keeps the timestamps.
  rw [List.map_map]
  rfl

omit [Field K] [LinearOrder K] [SquareRoot K] in
/-- Where the windows nest, a special duration is alone in one of them, and all can be summarized, exactly
when it is alone in the longest one. -/
theorem loneSpecial_of_nested {newest : DateTime} {events : List (Event (ExtFloat K))} (digests : Digests)
    (nest : WindowsNest newest (events.map (scrub digests))) :
    ((∀ window ∈ windows, Summarizable (durationsWithin newest window.2 events)) ∧
      ∃ window ∈ windows, ∃ x, ¬ x.IsFinite ∧ durationsWithin newest window.2 events = [x]) ↔
    ∃ x, ¬ x.IsFinite ∧ durationsWithin newest (7 * dayMicros) events = [x] := by
  -- The durations of a shorter window are among those of the longest one.
  have fewer : ∀ window ∈ windows, (durationsWithin newest window.2 events).Sublist
      (durationsWithin newest (7 * dayMicros) events) := by
    intro window windowIn
    rw [← durationsOf_recent_scrub digests, ← durationsOf_recent_scrub digests]
    exact (nest.recent_sublist window windowIn).filterMap _
  have week : ("7d", 7 * dayMicros) ∈ windows := by simp [windows]
  constructor
  · rintro ⟨summarizable, window, windowIn, x, special, only⟩
    refine ⟨x, special, ?_⟩
    have inside := fewer window windowIn
    rw [only] at inside
    -- The longest window can be summarized although the special value is in it.
    rcases summarizable _ week with few | finite
    · exact (inside.eq_of_length_le few).symm
    · exact absurd (finite x (inside.subset (List.mem_singleton_self x))) special
  · rintro ⟨x, special, only⟩
    refine ⟨fun window windowIn => .inl ?_, _, week, x, special, only⟩
    exact (fewer window windowIn).length_le.trans (by rw [only]; rfl)

/-- A lone special duration is returned as the mean of its window. -/
theorem lone_returned (digests : Digests) {events : List (Event (ExtFloat K))}
    (lone : LoneSpecialDuration events) : ∃ features key value,
      computeAggregates (events.map (scrub digests)) = .ok features ∧
      features.get? key = some value ∧ ¬ value.IsFinite := by
  cases events with
  | nil => exact lone.elim
  | cons event events =>
    obtain ⟨newest, found, late, summarizable, window, windowIn, x, special, only⟩ := lone
    rw [← latest_scrub digests] at found
    -- Each window has summaries, and those of this one have the special value as a mean.
    have each : ∀ window ∈ windows, ∃ summaries, windowStats (recent newest window.2
        ((event :: events).map (scrub digests))) = .ok summaries := by
      intro window windowIn
      have durations := summarizable window windowIn
      rw [← durationsOf_recent_scrub digests] at durations
      obtain ⟨result, returned⟩ := windowFeatures_returns window.1 durations .empty
      rw [windowFeatures_eq_store] at returned
      obtain ⟨summaries, read, -⟩ := map_eq_ok.mp returned
      exact ⟨summaries, read⟩
    obtain ⟨features, computed⟩ : ∃ features, recentFeatures newest
        ((event :: events).map (scrub digests)) = .ok features := by
      obtain ⟨hourly, hourlyRead⟩ := each ("1h", hourMicros) (by simp [windows])
      obtain ⟨daily, dailyRead⟩ := each ("24h", 24 * hourMicros) (by simp [windows])
      obtain ⟨weekly, weeklyRead⟩ := each ("7d", 7 * dayMicros) (by simp [windows])
      simp only at hourlyRead dailyRead weeklyRead
      simp only [recentFeatures, windowFeatures_eq_store, hourlyRead, dailyRead, weeklyRead]
      exact ⟨_, rfl⟩
    have returned := computeAggregates_eq found late
    rw [← List.map_cons, computed] at returned
    obtain ⟨summaries, read, rfl⟩ := recentFeatures_eq_ok.mp computed
    have metricIn : "session_duration_s" ∈ metrics := by simp [metrics]
    obtain ⟨mean, -⟩ := featuresOf_get? summaries windowIn metricIn
    refine ⟨_, _, _, returned, mean, ?_⟩
    obtain ⟨hours, _, rest⟩ := bind_eq_ok.mp (read window windowIn)
    obtain ⟨bytes, _, rest⟩ := bind_eq_ok.mp rest
    obtain ⟨hourStats, _, rest⟩ := bind_eq_ok.mp rest
    obtain ⟨durations, durationsRead, rest⟩ := bind_eq_ok.mp rest
    obtain ⟨byteStats, _, rest⟩ := bind_eq_ok.mp rest
    obtain ⟨summary, summarized, isSpecial⟩ := stats_special special
    rw [durationsOf_recent_scrub, only, summarized] at durationsRead
    cases durationsRead
    rw [← Except.ok.inj rest]
    exact isSpecial

omit [Field K] [LinearOrder K] [SquareRoot K] in
/-- Durations that can be summarized are numbers unless a special value is alone. -/
theorem Summarizable.finite {durations : List (ExtFloat K)} (summarizable : Summarizable durations)
    (notLone : ¬ ∃ x, ¬ x.IsFinite ∧ durations = [x]) : ∀ x ∈ durations, x.IsFinite := by
  rcases summarizable with few | finite
  · -- Of at most one duration the only one is not special.
    intro x member
    by_contra special
    refine notLone ⟨x, special, ?_⟩
    rcases durations with _ | ⟨y, _ | ⟨z, rest⟩⟩
    · cases member
    · rw [List.mem_singleton.mp member]
    · simp at few
  · exact finite

/-- The features of a user without events are finite. -/
theorem emptyFeatures_finite : AllFinite (emptyFeatures : Dict String (ExtFloat K)) := by
  -- Both loops set zeros only.
  have inner : ∀ (window : String) (names : List String) (features : Dict String (ExtFloat K)),
      AllFinite features → AllFinite (names.foldl
        (fun features metric => setStats metric window ⟨0.0, 0.0, 0⟩ features) features) := by
    intro window names
    induction names with
    | nil => exact fun features allFinite => allFinite
    | cons name names ih =>
      exact fun features allFinite => ih _ (allFinite.setStats (isFinite_ofScientific _ _ _)
        (isFinite_ofScientific _ _ _) _ _)
  have outer : ∀ (names : List (String × Int)) (features : Dict String (ExtFloat K)),
      AllFinite features → AllFinite (names.foldl (fun features window => metrics.foldl
        (fun features metric => setStats metric window.1 ⟨0.0, 0.0, 0⟩ features) features)
        features) := by
    intro names
    induction names with
    | nil => exact fun features allFinite => allFinite
    | cons name names ih => exact fun features allFinite => ih _ (inner _ _ _ allFinite)
  exact outer windows .empty allFinite_empty

/-- Without a lone special duration all features that are returned are finite. -/
theorem computeAggregates_finite {digests : Digests} {events : List (Event (ExtFloat K))}
    (safe : ¬ LoneSpecialDuration events) {features : Dict String (ExtFloat K)}
    (returned : computeAggregates (events.map (scrub digests)) = .ok features) :
    AllFinite features := by
  cases events with
  | nil =>
    rw [List.map_nil, computeAggregates, Except.ok.injEq] at returned
    exact returned ▸ emptyFeatures_finite
  | cons event events =>
    obtain ⟨reference, found, late, computed⟩ := computeAggregates_eq_ok returned
    rw [latest_scrub digests] at found
    rw [← List.map_cons] at computed
    -- Each window has been summarized, so its durations are numbers or a special value alone.
    have each : ∀ window ∈ windows,
        Summarizable (durationsWithin reference window.2 (event :: events)) := by
      obtain ⟨summaries, read, -⟩ := recentFeatures_eq_ok.mp computed
      intro window windowIn
      have stored := windowFeatures_eq_store window.1
        (recent reference window.2 ((event :: events).map (scrub digests))) .empty
      rw [read window windowIn] at stored
      obtain ⟨_, _, _, summary, _, _, _, _, summarized, _⟩ := windowFeatures_eq_ok.mp stored
      rw [durationsOf_recent_scrub] at summarized
      exact (stats_returns_iff _).mp ⟨summary, summarized⟩
    have finite : ∀ window ∈ windows, ∀ x ∈ durationsOf (recent reference window.2
        ((event :: events).map (scrub digests))), x.IsFinite := by
      intro window windowIn
      rw [durationsOf_recent_scrub]
      exact (each window windowIn).finite fun lone =>
        safe ⟨reference, found, late, each, window, windowIn, lone⟩
    obtain ⟨hourly, hourlyRead, computed⟩ := bind_eq_ok.mp computed
    obtain ⟨daily, dailyRead, weeklyRead⟩ := bind_eq_ok.mp computed
    obtain ⟨first, firstRead, firstFinite⟩ := windowFeatures_finite "1h"
      (finite ("1h", hourMicros) (by simp [windows])) allFinite_empty
    obtain rfl := Except.ok.inj (firstRead.symm.trans hourlyRead)
    obtain ⟨second, secondRead, secondFinite⟩ := windowFeatures_finite "24h"
      (finite ("24h", 24 * hourMicros) (by simp [windows])) firstFinite
    obtain rfl := Except.ok.inj (secondRead.symm.trans dailyRead)
    obtain ⟨third, thirdRead, thirdFinite⟩ := windowFeatures_finite "7d"
      (finite ("7d", 7 * dayMicros) (by simp [windows])) secondFinite
    obtain rfl := Except.ok.inj (thirdRead.symm.trans weeklyRead)
    exact thirdFinite

/-- Features and baselines stay finite exactly for those events among which no session duration is both
special and the only one of a window, where the other windows can be summarized too. -/
theorem featuresStayFinite_iff (digests : Digests) (events : List (Event (ExtFloat K))) :
    FeaturesStayFinite digests events ↔ ¬ LoneSpecialDuration events := by
  -- The lone special duration is the only way in for a special value.
  constructor
  · intro stays lone
    obtain ⟨features, key, value, returned, read, special⟩ := lone_returned digests lone
    exact special (stays.features features returned _ value read)
  · intro safe
    refine ⟨fun features returned => computeAggregates_finite safe returned, ?_⟩
    rintro features returned call faults store rfl stored
    exact updateBaseline_finite faults (computeAggregates_finite safe returned) stored

/-- A payload whose session duration is the constant `NaN`. -/
def nanPayload : Json (ExtFloat ℚ) :=
  -- As a producer could send it.
  .object [("user_id", .str "00000000000000000000000000000001"), ("timestamp", .int 0),
    ("event_type", .str "auth"), ("session_duration_s", .float .nan)]

/-- The event that is made of the payload. -/
def nanEvent : Event (ExtFloat ℚ) :=
  -- The event of that payload.
  ⟨1, .epoch, .auth, none, none, some .nan, none⟩

/-- The payload is accepted, and its event makes a feature that is not a number. -/
theorem featuresStayFinite_nan :
    normalize (plainRuntime (ExtFloat ℚ)) (.ofJson nanPayload) = some nanEvent ∧
      ¬ FeaturesStayFinite constantDigests [nanEvent] := by
  -- The window of seven days holds one duration, and that is the special one.
  refine ⟨by decide +kernel, fun stays => ?_⟩
  have lone : LoneSpecialDuration [nanEvent] :=
    ⟨nanEvent.timestamp, rfl, by decide, fun window _ => .inl (List.length_filterMap_le _ _ |>.trans
      (List.length_filter_le _ _)), ("7d", 7 * dayMicros), by simp [windows], .nan, id, by decide +kernel⟩
  obtain ⟨features, key, value, returned, read, special⟩ := lone_returned constantDigests lone
  exact special (stays.features features returned _ value read)

end Absm
