import Absm.Ingest.Normalizer
import Absm.Ingest.PlainRuntime
import Absm.Proofs.Features.FeatureShape
import Absm.Proofs.Features.SessionOrder

/-! Which accepted events make the features or the sequences raise because of their timestamps. -/

namespace Absm

variable {F : Type}

/-! ### Errors -/

/-- The errors that are raised because of timestamps. -/
def TimestampError : PyError → Prop
  -- Mixed kinds of times, or a start before the year one.
  | .typeError message => message = "can't compare offset-naive and offset-aware datetimes" ∨
      message = "can't subtract offset-naive and offset-aware datetimes"
  | .overflowError message => message = "date value out of range"
  | _ => False

/-- Conversions and summaries of numbers raise no errors of timestamps. -/
class QuietStatistics (F : Type) [Statistics F] : Prop where
  /-- A conversion of an integer raises no such error. -/
  ofInt_quiet (value : Int) : Avoids TimestampError (Statistics.ofInt value : Except PyError F)
  /-- A mean raises no such error. -/
  fmean_quiet (data : List F) : Avoids TimestampError (Statistics.fmean data)
  /-- A deviation raises no such error. -/
  pstdev_quiet (data : List F) : Avoids TimestampError (Statistics.pstdev data)

instance {K : Type} [Field K] [LinearOrder K] [SquareRoot K] : QuietStatistics (ExtFloat K) where
  -- An exact mean or deviation fails on other errors than these.
  ofInt_quiet _ := avoids_ok _
  fmean_quiet data := by
    show Avoids _ (ExtFloat.fmean data)
    unfold ExtFloat.fmean ExtFloat.fsum
    split_ifs <;> first | exact avoids_ok _ | exact avoids_error.mpr id
  pstdev_quiet data := by
    show Avoids _ (ExtFloat.pstdev data)
    unfold ExtFloat.pstdev
    split_ifs <;> first | exact avoids_ok _ | exact avoids_error.mpr id

section Quiet

variable [Statistics F] [OfScientific F] [QuietStatistics F]

/-- A summary raises no error of timestamps. -/
theorem stats_quiet (values : List F) : Avoids TimestampError (stats values) := by
  -- A mean is taken, and for several values a deviation.
  unfold stats
  split
  case isTrue => exact avoids_ok _
  case isFalse =>
    refine (QuietStatistics.fmean_quiet values).bind fun _ _ => Avoids.bind ?_ fun _ _ => avoids_ok _
    split
    case isTrue => exact QuietStatistics.pstdev_quiet values
    case isFalse => exact avoids_ok _

/-- The summaries of a window raise no error of timestamps. -/
theorem windowStats_quiet (inside : List (ScrubbedEvent F)) :
    Avoids TimestampError (windowStats inside) := by
  -- Conversions and summaries follow each other, and none of them raises such an error.
  refine (Avoids.mapM fun _ => QuietStatistics.ofInt_quiet _).bind fun _ _ => ?_
  refine (Avoids.mapM fun _ => QuietStatistics.ofInt_quiet _).bind fun _ _ => ?_
  refine (stats_quiet _).bind fun _ _ => (stats_quiet _).bind fun _ _ => ?_
  exact (stats_quiet _).bind fun _ _ => avoids_ok _

/-! ### Windows -/

/-- The windows start in year 1 or later, as far as the events of the windows before can be
summarized. -/
def WindowsStart (newest : DateTime) (events : List (ScrubbedEvent F)) : List (String × Int) → Prop
  -- A later window is tried only after the earlier ones are filled.
  | [] => True
  | (_, duration) :: rest => duration ≤ newest.micros ∧
    ∀ summaries, windowStats (recent newest duration events) = .ok summaries →
      WindowsStart newest events rest

/-- The windows raise no error of timestamps exactly when they start in year 1 or later. -/
theorem windowsFeatures_quiet_iff {newest : DateTime} {events : List (ScrubbedEvent F)}
    (same : ∀ event ∈ events, event.timestamp.aware = newest.aware)
    {rest : List (String × Int)} (nonneg : ∀ window ∈ rest, 0 ≤ window.2)
    (features : Dict String F) :
    Avoids TimestampError (windowsFeatures newest events rest features) ↔
      WindowsStart newest events rest := by
  induction rest generalizing features with
  | nil => exact iff_of_true (avoids_ok _) trivial
  | cons window rest ih =>
    obtain ⟨name, duration⟩ := window
    have later := ih fun window member => nonneg window (List.mem_cons_of_mem _ member)
    rw [windowsFeatures_cons same (nonneg _ (List.mem_cons_self ..)), WindowsStart]
    split
    case isTrue fits =>
      rw [windowFeatures_eq_store]
      cases read : windowStats (recent newest duration events) with
      | error error =>
        -- Nothing that raises later is reached.
        exact iff_of_true (avoids_error.mpr (windowStats_quiet _ error read)) ⟨fits, by simp⟩
      | ok summaries =>
        simp only [Except.map, ok_bind, later, fits, true_and, Except.ok.injEq, forall_eq']
    case isFalse early =>
      rw [avoids_error]
      exact iff_of_false (not_not_intro rfl) fun starts => early starts.1

/-! ### Both calls -/

/-- Neither the features nor the sequences of some events raise because of timestamps. -/
structure TimestampsHandled (events : List (ScrubbedEvent F)) : Prop where
  /-- The features do not. -/
  aggregates : Avoids TimestampError (computeAggregates events)
  /-- The sequences of no length do. -/
  sequences : ∀ maxLen, Avoids TimestampError (buildSessionSequences events maxLen)

omit [Statistics F] [OfScientific F] [QuietStatistics F] in
/-- Sequences raise because of timestamps exactly when these cannot be compared. -/
theorem sequences_quiet_iff (events : List (ScrubbedEvent F)) :
    (∀ maxLen, Avoids TimestampError (buildSessionSequences events maxLen)) ↔
      ComparableTimes events := by
  -- Only sorting can raise such an error, and it does as soon as two kinds meet.
  constructor
  · intro quiet
    by_contra incomparable
    have raised := (buildSessionSequences_raises events 1).2 one_pos incomparable
    exact quiet 1 _ raised (.inl rfl)
  · intro comparable maxLen
    rcases Int.lt_or_le 0 maxLen with positive | nonpositive
    · obtain ⟨batch, built, -⟩ := buildSessionSequences_rows events positive comparable
      rw [built]
      exact avoids_ok batch
    · rw [(buildSessionSequences_raises events maxLen).1 nonpositive]
      exact avoids_error.mpr id

/-- The features of comparable events raise because of timestamps exactly when a window that is reached
starts before year 1. -/
theorem aggregates_quiet_iff {events : List (ScrubbedEvent F)} (comparable : ComparableTimes events) :
    Avoids TimestampError (computeAggregates events) ↔
      ∀ newest ∈ newestEvent events, WindowsStart newest.timestamp events windows := by
  -- The newest event is found, so only the starts of the windows are left to raise.
  cases events with
  | nil => exact iff_of_true (avoids_ok _) (by simp [newestEvent])
  | cons event events =>
    obtain ⟨newest, found, latest⟩ := latest_newest comparable
    have member := newestEvent_mem found
    have nonneg : ∀ window ∈ windows, 0 ≤ window.2 := by decide
    have same := (comparableTimes_iff _).mp comparable
    rw [computeAggregates, latest, ok_bind, found,
      windowsFeatures_quiet_iff (fun other inside => same other inside newest member) nonneg]
    simp

/-- Scrubbed events make neither the features nor the sequences raise because of timestamps exactly when
the timestamps can be compared and the windows before the newest event start in year 1 or later, as far as
they are reached. -/
theorem timestampsHandled_iff (digests : Digests) (events : List (Event F)) :
    TimestampsHandled (events.map (scrub digests)) ↔
      ComparableTimes (events.map (scrub digests)) ∧
      ∀ newest ∈ newestEvent (events.map (scrub digests)),
        WindowsStart newest.timestamp (events.map (scrub digests)) windows := by
  -- Sorting for the sequences compares the timestamps, as finding the newest event does.
  constructor
  · intro handled
    have comparable := (sequences_quiet_iff _).mp handled.sequences
    exact ⟨comparable, (aggregates_quiet_iff comparable).mp handled.aggregates⟩
  · intro both
    exact ⟨(aggregates_quiet_iff both.1).mpr both.2, (sequences_quiet_iff _).mpr both.1⟩

end Quiet

/-! ### Accepted events -/

/-- A payload with a timestamp. -/
def timedPayload (time : DateTime) : Raw (ExtFloat ℚ) :=
  -- As a producer could send it.
  .mapping (.ofList [("user_id", .json (.str "00000000000000000000000000000001")),
    ("timestamp", .datetime time), ("event_type", .json (.str "auth"))])

/-- The event that is made of the payload. -/
def timedEvent (time : DateTime) : Event (ExtFloat ℚ) :=
  -- The event of that payload.
  ⟨1, time, .auth, none, none, none, none⟩

/-- The start of 1970 on a wall clock without an offset. -/
def naiveEpoch : DateTime :=
  -- Midnight without a zone.
  ⟨719162 * dayMicros, .naive, DateTime.epoch.inRange⟩

/-- The law for an event at the start of 1970. -/
theorem timestampsHandled_iff_epoch :
    TimestampsHandled ([timedEvent .epoch].map (scrub constantDigests)) ↔
      ComparableTimes ([timedEvent .epoch].map (scrub constantDigests)) ∧
      ∀ newest ∈ newestEvent ([timedEvent .epoch].map (scrub constantDigests)),
        WindowsStart newest.timestamp ([timedEvent .epoch].map (scrub constantDigests)) windows :=
  -- One event in UTC.
  timestampsHandled_iff constantDigests [timedEvent .epoch]

/-- Accepted events of which one has an offset and the other one has none make both calls raise, and an
accepted event at the start of year 1 has no features. -/
theorem timestampsHandled_fails :
    (∀ time ∈ [naiveEpoch, .epoch, .yearOne],
      normalize (plainRuntime (ExtFloat ℚ)) (timedPayload time) = some (timedEvent time)) ∧
    computeAggregates ([timedEvent naiveEpoch, timedEvent .epoch].map (scrub constantDigests)) =
      .error (.typeError "can't compare offset-naive and offset-aware datetimes") ∧
    (buildSessionSequences ([timedEvent naiveEpoch, timedEvent .epoch].map (scrub constantDigests))
      50).map TokenBatch.rows =
      .error (.typeError "can't compare offset-naive and offset-aware datetimes") ∧
    computeAggregates ([timedEvent .yearOne].map (scrub constantDigests)) =
      .error (.overflowError "date value out of range") ∧
    ¬ TimestampsHandled ([timedEvent naiveEpoch, timedEvent .epoch].map (scrub constantDigests)) ∧
    ¬ TimestampsHandled ([timedEvent .yearOne].map (scrub constantDigests)) := by
  -- The first comparison raises for the two kinds, and the first subtraction in year 1.
  have mixed : computeAggregates ([timedEvent naiveEpoch, timedEvent .epoch].map
      (scrub constantDigests)) =
      .error (.typeError "can't compare offset-naive and offset-aware datetimes") := rfl
  have early : computeAggregates ([timedEvent .yearOne].map (scrub constantDigests)) =
      .error (.overflowError "date value out of range") := rfl
  refine ⟨by decide +kernel, mixed, rfl, early, fun handled => ?_, fun handled => ?_⟩
  · exact handled.aggregates _ mixed (.inl rfl)
  · exact handled.aggregates _ early rfl

end Absm
