import Absm.Proofs.Features.ExactSummaries

/-! How a timestamp is spelled matters to the features through the hours that the spellings show. -/

namespace Absm

/-! ### Spellings -/

section Spellings

variable {F : Type}

/-- Each event has a timestamp with a fixed offset, and comes with another one at the same instant. -/
def Respelled (events : List (Event F × DateTime)) : Prop :=
  -- Both spellings name one instant at fixed offsets.
  ∀ pair ∈ events, (∃ ahead, pair.1.timestamp.tzinfo = .fixed ahead) ∧
    (∃ ahead, pair.2.tzinfo = .fixed ahead) ∧ pair.2.clock = pair.1.timestamp.clock

/-- The scrubbed events, with some spelling of each timestamp. -/
def spelledEvents (digests : Digests) (spelling : Event F × DateTime → DateTime)
    (events : List (Event F × DateTime)) : List (ScrubbedEvent F) :=
  -- The spelling is put in before scrubbing.
  events.map fun pair => scrub digests { pair.1 with timestamp := spelling pair }

/-- The first event that none is later than, with its other spelling. -/
def newestPair (events : List (Event F × DateTime)) : Option (Event F × DateTime) :=
  -- Of equal instants the first.
  firstGreatest (fun pair => pair.1.timestamp.clock) events

/-- The events of a window that ends at some time. -/
def pairsSince (newest : DateTime) (duration : Int) (events : List (Event F × DateTime)) :
    List (Event F × DateTime) :=
  -- The newest itself bounds the window above.
  events.filter fun pair => newest.clock - duration ≤ pair.1.timestamp.clock

/-- The hours that the two spellings show have one sum, and their squares have one sum. -/
def HoursAgree (inside : List (Event F × DateTime)) : Prop :=
  -- Means and deviations depend on the hours through these two sums.
  (inside.map fun pair => pair.1.timestamp.hour).sum = (inside.map fun pair => pair.2.hour).sum ∧
    (inside.map fun pair => pair.1.timestamp.hour ^ 2).sum =
      (inside.map fun pair => pair.2.hour ^ 2).sum

variable {spelling : Event F × DateTime → DateTime} {events : List (Event F × DateTime)}

/-- A spelling of the timestamps as the instants that they are, with fixed offsets. -/
def Keeps (spelling : Event F × DateTime → DateTime) (events : List (Event F × DateTime)) : Prop :=
  -- Only the spelling of the time is free.
  ∀ pair ∈ events, (∃ ahead, (spelling pair).tzinfo = .fixed ahead) ∧
    (spelling pair).clock = pair.1.timestamp.clock

/-- The timestamps as they are written keep the instants. -/
theorem Respelled.keeps_first (respelled : Respelled events) :
    Keeps (fun pair => pair.1.timestamp) events :=
  -- The first spelling is the event's own.
  fun pair member => ⟨(respelled pair member).1, rfl⟩

/-- The other spellings keep the instants. -/
theorem Respelled.keeps_second (respelled : Respelled events) : Keeps Prod.snd events :=
  -- The second spelling is at the same instant.
  fun pair member => (respelled pair member).2

/-- Fixed offsets are there and never change. -/
theorem Keeps.fixed (keeps : Keeps spelling events) (digests : Digests) :
    ∀ event ∈ spelledEvents digests spelling events,
      event.timestamp.aware = true ∧ event.timestamp.tzinfo.Constant := by
  -- Scrubbing keeps the timestamp.
  intro event member
  obtain ⟨pair, inside, rfl⟩ := List.mem_map.mp member
  obtain ⟨ahead, fixed⟩ := (keeps pair inside).1
  simp [scrub, DateTime.aware, fixed, TzInfo.Constant]

/-- Timestamps with offsets can be compared in every spelling. -/
theorem Keeps.comparable (keeps : Keeps spelling events) (digests : Digests) :
    ComparableTimes (spelledEvents digests spelling events) := by
  -- All timestamps carry an offset.
  rw [comparableTimes_iff]
  have aware := fun event member => (keeps.fixed digests event member).1
  exact fun left leftIn right rightIn => (aware left leftIn).trans (aware right rightIn).symm

/-- The newest event is the same in every spelling. -/
theorem Keeps.newest (keeps : Keeps spelling events) (digests : Digests) :
    newestEvent (spelledEvents digests spelling events) =
      (newestPair events).map fun pair => scrub digests { pair.1 with timestamp := spelling pair } := by
  -- The newest is found by the instant, which the spelling keeps.
  rw [newestEvent_of_constant fun event member => (keeps.fixed digests event member).2]
  exact firstGreatest_map _ fun pair member => (keeps pair member).2

/-- The events of a window that starts in year 1 or later are the same in every spelling. -/
theorem Keeps.window (keeps : Keeps spelling events) (digests : Digests) {newest : Event F × DateTime}
    (found : newestPair events = some newest) {duration : Int} (nonneg : 0 ≤ duration)
    (fits : duration ≤ (spelling newest).micros) :
    windowOf (spelledEvents digests spelling events) duration =
      spelledEvents digests spelling (pairsSince newest.1.timestamp duration events) := by
  -- The window is cut by instants, which the spelling keeps.
  have newestFound := keeps.newest digests
  rw [found] at newestFound
  obtain ⟨member, upper⟩ := firstGreatest_spec found
  have constant := (keeps.fixed digests _ (newestEvent_mem newestFound)).2
  rw [windowOf_newest newestFound, recent, spelledEvents, List.filter_map]
  refine congrArg _ (List.filter_congr fun pair inside => ?_)
  have inWindow := inWindow_of_constant constant nonneg fits (spelling pair)
  have latest := upper pair inside
  rw [Bool.eq_iff_iff, decide_eq_true_eq]
  refine inWindow.trans ?_
  show (spelling newest).clock - duration ≤ (spelling pair).clock ∧
    (spelling pair).clock ≤ (spelling newest).clock ↔ _
  rw [(keeps newest member).2, (keeps pair inside).2]
  exact and_iff_left latest

/-- The durations are the same in every spelling. -/
theorem durationsOf_spelled (digests : Digests) (spelling : Event F × DateTime → DateTime)
    (events : List (Event F × DateTime)) : durationsOf (spelledEvents digests spelling events) =
      events.filterMap fun pair => pair.1.sessionDurationS := by
  -- The spelling does not touch the durations.
  rw [durationsOf, spelledEvents, List.filterMap_map]
  rfl

end Spellings

/-! ### Summaries -/

variable {K : Type} [Field K]

variable [LinearOrder K] [SquareRoot K]

variable [IsStrictOrderedRing K] [LawfulSquareRoot K]

/-- As many integers as others have the same mean and deviation exactly when they have the same sum and
their squares have the same sum. -/
theorem exactStats_ints_iff (hours others : List Int) (length : hours.length = others.length) :
    exactStats (hours.map (Int.cast : Int → K)) = exactStats (others.map (Int.cast : Int → K)) ↔
      hours.sum = others.sum ∧ (hours.map (· ^ 2)).sum = (others.map (· ^ 2)).sum := by
  -- The means are equal when the sums are, and then the deviations when the squares are.
  have sums (values : List Int) : (values.map (Int.cast : Int → K)).sum = (values.sum : K) :=
    (Int.cast_list_sum values).symm
  have squares (values : List Int) : ((values.map (Int.cast : Int → K)).map (· ^ 2)).sum =
      (((values.map (· ^ 2)).sum : Int) : K) := by
    rw [Int.cast_list_sum, List.map_map, List.map_map]
    congr 1
    exact List.map_congr_left fun value _ => by simp
  rcases eq_or_ne hours [] with rfl | nonempty
  · rw [List.eq_nil_of_length_eq_zero length.symm]
    simp
  have converted : hours.map (Int.cast : Int → K) ≠ [] := by simpa using nonempty
  have size : (others.length : K) ≠ 0 := by
    rw [← length, Nat.cast_ne_zero]
    exact List.length_eq_zero_iff.not.mpr nonempty
  have variances (sum : (hours.map (Int.cast : Int → K)).sum =
      (others.map (Int.cast : Int → K)).sum) :=
    variance_eq_iff converted (by simpa using length) sum
  simp only [exactStats, Stats.mk.injEq, ExtFloat.finite.injEq, List.length_map, length, and_true,
    div_left_inj' size]
  rw [← Int.cast_inj (α := K), ← Int.cast_inj (α := K), ← sums, ← sums, ← squares, ← squares]
  constructor
  · intro same
    exact ⟨same.1, (variances same.1).mp (variance_of_deviation same.2)⟩
  · intro same
    exact ⟨same.1, congrArg SquareRoot.sqrt ((variances same.1).mpr same.2)⟩

omit [IsStrictOrderedRing K] [LawfulSquareRoot K] [SquareRoot K] [LinearOrder K] in
/-- The hours of some events are those that the spelling shows. -/
theorem hours_spelled (digests : Digests) (spelling : Event (ExtFloat K) × DateTime → DateTime)
    (inside : List (Event (ExtFloat K) × DateTime)) :
    metricValues "login_hour" (spelledEvents digests spelling inside) =
      (inside.map fun pair => (spelling pair).hour).map Int.cast := by
  -- Scrubbing takes the hour from the wall clock.
  show (spelledEvents digests spelling inside).map _ = _
  rw [spelledEvents, List.map_map, List.map_map]
  rfl

/-- The features of a window are the same for both spellings exactly when the hours agree. -/
theorem entries_spelled_iff (digests : Digests) (inside : List (Event (ExtFloat K) × DateTime))
    (window : String) (durations : Stats (ExtFloat K)) :
    (∀ metric ∈ metrics,
      statsEntries metric window ((summariesWith (spelledEvents digests
        (fun pair => pair.1.timestamp) inside) durations).metric metric) =
      statsEntries metric window ((summariesWith (spelledEvents digests Prod.snd inside)
        durations).metric metric)) ↔ HoursAgree inside := by
  have agree := exactStats_ints_iff (K := K) (inside.map fun pair => pair.1.timestamp.hour)
    (inside.map fun pair => pair.2.hour) (by simp)
  rw [← hours_spelled digests (fun pair => pair.1.timestamp), ← hours_spelled digests Prod.snd,
    List.map_map, List.map_map] at agree
  refine Iff.trans ?_ agree
  -- Amounts of data and addresses are not read off the spelling.
  have bytes : bytesOf (spelledEvents digests (fun pair => pair.1.timestamp) inside) =
      bytesOf (spelledEvents digests Prod.snd inside) := by
    rw [bytesOf, bytesOf, spelledEvents, spelledEvents, List.filterMap_map, List.filterMap_map]
    rfl
  have addresses : addressesOf (spelledEvents digests (fun pair => pair.1.timestamp) inside) =
      addressesOf (spelledEvents digests Prod.snd inside) := by
    rw [addressesOf, addressesOf, spelledEvents, spelledEvents, List.filterMap_map,
      List.filterMap_map]
    rfl
  constructor
  · intro same
    have hourly := same "login_hour" (by simp [metrics])
    simp only [statsEntries, List.cons.injEq, Prod.mk.injEq, true_and] at hourly
    rw [exactStats, exactStats, Stats.mk.injEq]
    exact ⟨hourly.1, hourly.2.1, by simp [hours_spelled]⟩
  · intro same metric _
    have amounts : metricValues "bytes_out" (spelledEvents digests (fun pair => pair.1.timestamp)
        inside) = metricValues "bytes_out" (spelledEvents digests Prod.snd inside) := by
      simp only [metricValues, bytes]
    rw [summariesWith, summariesWith, same, amounts, addresses]

/-- The durations of the events of a window. -/
def durationsSince (newest : DateTime) (duration : Int)
    (events : List (Event (ExtFloat K) × DateTime)) : List (ExtFloat K) :=
  -- The durations are those of the events in the window.
  (pairsSince newest duration events).filterMap fun pair => pair.1.sessionDurationS

section Keeping

variable {spelling : Event (ExtFloat K) × DateTime → DateTime}
  {events : List (Event (ExtFloat K) × DateTime)} {newest : Event (ExtFloat K) × DateTime}

/-- The summaries of a window, given that of its durations. -/
theorem Keeps.windowStats (keeps : Keeps spelling events) (digests : Digests)
    (found : newestPair events = some newest) {duration : Int} (nonneg : 0 ≤ duration)
    (fits : duration ≤ (spelling newest).micros) :
    Absm.windowStats (windowOf (spelledEvents digests spelling events) duration) =
      (stats (durationsSince newest.1.timestamp duration events)).map
        (summariesWith (spelledEvents digests spelling
          (pairsSince newest.1.timestamp duration events))) := by
  -- The durations are the same for every spelling of the instants.
  rw [keeps.window digests found nonneg fits, windowStats_eq, durationsOf_spelled]
  rfl

/-- All windows have summaries exactly when the durations of the longest one have one. -/
theorem Keeps.summarizable_iff (keeps : Keeps spelling events) (digests : Digests)
    (found : newestPair events = some newest) (fits : 7 * dayMicros ≤ (spelling newest).micros) :
    (∀ window ∈ windows, ∃ summaries,
      Absm.windowStats (windowOf (spelledEvents digests spelling events) window.2) =
        .ok summaries) ↔
    Summarizable (durationsSince newest.1.timestamp (7 * dayMicros) events) := by
  have durations : ∀ window ∈ windows, 0 ≤ window.2 ∧ window.2 ≤ 7 * dayMicros := by decide
  have each : ∀ window ∈ windows, (∃ summaries,
      Absm.windowStats (windowOf (spelledEvents digests spelling events) window.2) =
        .ok summaries) ↔ Summarizable (durationsSince newest.1.timestamp window.2 events) := by
    intro window windowIn
    obtain ⟨nonneg, short⟩ := durations window windowIn
    rw [keeps.windowStats digests found nonneg (short.trans fits), ← stats_returns_iff]
    simp only [map_eq_ok, exists_comm, exists_eq_right']
  refine (forall₂_congr each).trans ⟨?_, ?_⟩
  · exact fun all => all ("7d", 7 * dayMicros) (by simp [windows])
  · -- The other windows hold some of the events of the longest one.
    intro weekly window windowIn
    refine weekly.sublist (List.Sublist.filterMap _ (List.monotone_filter_right _ ?_))
    intro pair inside
    have order := (durations window windowIn).2
    simp only [decide_eq_true_eq] at inside ⊢
    omega

/-- What a spelling of the timestamps gives for features. -/
theorem Keeps.features (keeps : Keeps spelling events) (digests : Digests)
    (found : newestPair events = some newest) :
    (computeAggregates (spelledEvents digests spelling events)).toOption =
      if 7 * dayMicros ≤ (spelling newest).micros ∧
          Summarizable (durationsSince newest.1.timestamp (7 * dayMicros) events)
        then some (featuresOf (windowSummaries (spelledEvents digests spelling events)))
        else none := by
  -- The newest event and what is summarized are those of the pairs.
  have newestFound := keeps.newest digests
  rw [found] at newestFound
  refine toOption_eq_ite fun result => ?_
  rw [computeAggregates_eq_ok_iff (keeps.comparable digests) newestFound, and_assoc]
  refine and_congr_right fun fits => ?_
  rw [keeps.summarizable_iff digests found fits]

end Keeping

/-- Events with offsets have the same features in two spellings exactly when, unless their durations
cannot be summarized, the week before the newest one starts in year 1 or later in both spellings or in
neither, and in the former case the hours of each window agree. -/
theorem sameFeatures_iff (digests : Digests) (events : List (Event (ExtFloat K) × DateTime))
    (respelled : Respelled events) :
    (computeAggregates (events.map fun pair => scrub digests pair.1)).toOption =
      (computeAggregates (events.map fun pair =>
        scrub digests { pair.1 with timestamp := pair.2 })).toOption ↔
    ∀ newest ∈ newestPair events,
      Summarizable (durationsSince newest.1.timestamp (7 * dayMicros) events) →
      (7 * dayMicros ≤ newest.1.timestamp.micros ↔ 7 * dayMicros ≤ newest.2.micros) ∧
      (7 * dayMicros ≤ newest.1.timestamp.micros → ∀ window ∈ windows,
        HoursAgree (pairsSince newest.1.timestamp window.2 events)) := by
  show (computeAggregates (spelledEvents digests (fun pair => pair.1.timestamp) events)).toOption =
    (computeAggregates (spelledEvents digests Prod.snd events)).toOption ↔ _
  have first := respelled.keeps_first
  have second := respelled.keeps_second
  cases found : newestPair events with
  | none =>
    have none := first.newest digests
    rw [found] at none
    obtain rfl := List.map_eq_nil_iff.mp (newestEvent_eq_none none)
    exact iff_of_true rfl (by simp)
  | some newest =>
    rw [first.features digests found, second.features digests found]
    simp only [Option.mem_some_iff, forall_eq']
    by_cases summarizable :
        Summarizable (durationsSince newest.1.timestamp (7 * dayMicros) events)
    case neg => simp [summarizable]
    by_cases fits : 7 * dayMicros ≤ newest.1.timestamp.micros
    case neg => simp [summarizable, fits]
    by_cases otherFits : 7 * dayMicros ≤ newest.2.micros
    case neg => simp [summarizable, fits, otherFits]
    -- Both spellings have features, and these differ in the hours at most.
    rw [if_pos ⟨fits, summarizable⟩, if_pos ⟨otherFits, summarizable⟩, Option.some.injEq,
      featuresOf_eq_iff]
    simp only [summarizable, fits, otherFits, forall_const, true_and]
    refine forall₂_congr fun window windowIn => ?_
    have durations : ∀ window ∈ windows, 0 ≤ window.2 ∧ window.2 ≤ 7 * dayMicros := by decide
    obtain ⟨nonneg, short⟩ := durations window windowIn
    have stated := first.windowStats digests found nonneg (short.trans fits)
    obtain ⟨_, returned⟩ := (first.summarizable_iff digests found fits).mpr summarizable window windowIn
    rw [stated] at returned
    obtain ⟨durations, read, -⟩ := map_eq_ok.mp returned
    rw [windowSummaries_eq _ window windowIn, windowSummaries_eq _ window windowIn, stated,
      second.windowStats digests found nonneg (short.trans otherFits), read]
    exact entries_spelled_iff digests _ window.1 durations

/-- An event at the start of 1970, on a wall clock that is one hour ahead, and the same time in UTC. -/
def aheadPair (K : Type) : Event (ExtFloat K) × DateTime :=
  -- One o'clock an hour ahead is midnight in UTC.
  (⟨1, ⟨719162 * dayMicros + hourMicros, .fixed hourAhead, by decide⟩, .auth,
    none, none, none, none⟩, .epoch)

/-- The law at the start of 1970. -/
theorem sameFeatures_iff_ahead :
    (computeAggregates ([aheadPair ℝ].map fun pair => scrub constantDigests pair.1)).toOption =
      (computeAggregates ([aheadPair ℝ].map fun pair =>
        scrub constantDigests { pair.1 with timestamp := pair.2 })).toOption ↔
    ∀ newest ∈ newestPair [aheadPair ℝ],
      Summarizable (durationsSince newest.1.timestamp (7 * dayMicros) [aheadPair ℝ]) →
      (7 * dayMicros ≤ newest.1.timestamp.micros ↔ 7 * dayMicros ≤ newest.2.micros) ∧
      (7 * dayMicros ≤ newest.1.timestamp.micros → ∀ window ∈ windows,
        HoursAgree (pairsSince newest.1.timestamp window.2 [aheadPair ℝ])) :=
  -- One event, at offsets of one hour and of zero.
  sameFeatures_iff constantDigests [aheadPair ℝ] (List.forall_mem_singleton.mpr ⟨⟨_, rfl⟩, ⟨_, rfl⟩, rfl⟩)

/-- The mean hour of the event is one in the one spelling and zero in the other one. -/
theorem sameFeatures_fails :
    Respelled [aheadPair ℚ] ∧
      (computeAggregates ([aheadPair ℚ].map fun pair => scrub constantDigests pair.1)).toOption.bind
        (·.get? "login_hour_1h_mean") = some (.finite 1) ∧
      (computeAggregates ([aheadPair ℚ].map fun pair =>
        scrub constantDigests { pair.1 with timestamp := pair.2 })).toOption.bind
        (·.get? "login_hour_1h_mean") = some (.finite 0) ∧
      (computeAggregates ([aheadPair ℚ].map fun pair => scrub constantDigests pair.1)).toOption ≠
        (computeAggregates ([aheadPair ℚ].map fun pair =>
          scrub constantDigests { pair.1 with timestamp := pair.2 })).toOption :=
  -- The hour is one in the first spelling and zero in the second.
  ⟨List.forall_mem_singleton.mpr ⟨⟨_, rfl⟩, ⟨_, rfl⟩, rfl⟩, by decide +kernel, by decide +kernel,
    by decide +kernel⟩

end Absm
