import Absm.Features.RollingAggregates

/-! What the aggregates are computed from: per window, the events since the window's start. -/

namespace Absm

variable {F : Type}

/-- Whether a time is in the window of some duration that ends at a reference time, as the comparisons
find it. -/
def inWindow (reference : DateTime) (duration : Int) (time : DateTime) : Bool :=
  match reference.minus duration with
  -- Both ends belong to the window.
  | .ok start => start.later time ≤ 0 && time.later reference ≤ 0
  | .error _ => false

/-- The events of a window. -/
def recent (reference : DateTime) (duration : Int) (events : List (ScrubbedEvent F)) :
    List (ScrubbedEvent F) :=
  -- The events from the start of the window to the reference, both included.
  events.filter fun event => inWindow reference duration event.timestamp

/-- The lengths of the sessions among some events. -/
def durationsOf (events : List (ScrubbedEvent F)) : List F :=
  -- Absent durations are left out.
  events.filterMap ScrubbedEvent.sessionDurationS

/-- The amounts of data among some events. -/
def bytesOf (events : List (ScrubbedEvent F)) : List Int :=
  -- Absent amounts are left out.
  events.filterMap ScrubbedEvent.bytesOut

/-- The different addresses among some events. -/
def addressesOf (events : List (ScrubbedEvent F)) : List String :=
  -- The empty address counts as absent, as in the comprehension.
  (events.filterMap fun event => truthyText event.ipHmac).dedup

/-- A window holds some of the events. -/
theorem recent_sublist (reference : DateTime) (duration : Int) (events : List (ScrubbedEvent F)) :
    (recent reference duration events).Sublist events :=
  -- A window is a filter.
  List.filter_sublist

/-- A window in which the offset does not change holds the times of so many microseconds before its end. -/
theorem inWindow_iff {reference start : DateTime} {duration : Int}
    (started : reference.minus duration = .ok start) (steady : start.clock = reference.clock - duration)
    {time : DateTime} (passed : time.later reference = time.clock - reference.clock) :
    inWindow reference duration time = true ↔
      reference.clock - duration ≤ time.clock ∧ time.clock ≤ reference.clock := by
  -- The start is compared with on the wall clock or by instants, which comes to the same.
  obtain ⟨object, shown, -, -⟩ := DateTime.minus_eq_ok started
  have same : time.tzinfo.same start.tzinfo = time.tzinfo.same reference.tzinfo := by
    rw [Bool.eq_iff_iff]
    refine ⟨fun one => TzInfo.same_trans one object, fun one => TzInfo.same_trans one ?_⟩
    rw [TzInfo.same_comm, object]
  have first : start.later time = start.clock - time.clock := by
    rw [DateTime.later_swap]
    rw [DateTime.later] at passed ⊢
    rw [same]
    split at passed
    case isTrue one => rw [if_pos one]; omega
    case isFalse other => rw [if_neg other]; omega
  simp only [inWindow, started, first, passed, Bool.and_eq_true, decide_eq_true_eq]
  omega

/-- Where the offset never changes, a window holds the times of so many microseconds before its end. -/
theorem inWindow_of_constant {reference : DateTime} (constant : reference.tzinfo.Constant) {duration : Int}
    (nonneg : 0 ≤ duration) (fits : duration ≤ reference.micros) (time : DateTime) :
    inWindow reference duration time = true ↔
      reference.clock - duration ≤ time.clock ∧ time.clock ≤ reference.clock := by
  -- In a constant zone instants order as the wall clocks do.
  obtain ⟨start, started⟩ := DateTime.exists_minus nonneg fits
  exact inWindow_iff started (DateTime.minus_clock constant started).1 (DateTime.later_of_constant constant)

/-- The three windows before a reference time hold more and more of some events. -/
def WindowsNest (reference : DateTime) (events : List (ScrubbedEvent F)) : Prop :=
  -- Stated event by event, since zones with jumps can break it.
  ∀ event ∈ events,
    (inWindow reference hourMicros event.timestamp → inWindow reference (24 * hourMicros) event.timestamp) ∧
    (inWindow reference (24 * hourMicros) event.timestamp → inWindow reference (7 * dayMicros) event.timestamp)

/-- The windows nest where the offset never changes and the longest one starts in year 1 or later. -/
theorem windowsNest_of_constant {reference : DateTime} (constant : reference.tzinfo.Constant)
    (fits : 7 * dayMicros ≤ reference.micros) (events : List (ScrubbedEvent F)) :
    WindowsNest reference events := by
  -- What is at most an hour old is at most a day old, and so on.
  intro event _
  have shorter : ∀ duration, duration ≤ 7 * dayMicros → duration ≤ reference.micros := fun _ short =>
    short.trans fits
  rw [inWindow_of_constant constant (by decide) (shorter _ (by decide)),
    inWindow_of_constant constant (by decide) (shorter _ (by decide)),
    inWindow_of_constant constant (by decide) fits]
  unfold hourMicros dayMicros
  omega

/-- A window that holds no event which another one does not hold has some of the events of that one. -/
theorem recent_sublist_of {reference : DateTime} {short long : Int} {events : List (ScrubbedEvent F)}
    (inside : ∀ event ∈ events, inWindow reference short event.timestamp →
      inWindow reference long event.timestamp) :
    (recent reference short events).Sublist (recent reference long events) := by
  -- Filtering twice leaves what the shorter window holds.
  have both : recent reference short events =
      (recent reference long events).filter fun event => inWindow reference short event.timestamp := by
    rw [recent, recent, List.filter_filter]
    refine List.filter_congr fun event member => ?_
    rw [Bool.eq_iff_iff, Bool.and_eq_true]
    exact ⟨fun shortly => ⟨shortly, inside event member shortly⟩, And.left⟩
  rw [both]
  exact List.filter_sublist

/-- Where the windows nest, the hour is part of the day, and the day is part of the week. -/
theorem WindowsNest.sublists {reference : DateTime} {events : List (ScrubbedEvent F)}
    (nest : WindowsNest reference events) :
    (recent reference hourMicros events).Sublist (recent reference (24 * hourMicros) events) ∧
      (recent reference (24 * hourMicros) events).Sublist (recent reference (7 * dayMicros) events) :=
  -- Both parts are read event by event.
  ⟨recent_sublist_of fun event member => (nest event member).1,
    recent_sublist_of fun event member => (nest event member).2⟩

/-- Where the windows nest, each one holds some of the events of the longest one. -/
theorem WindowsNest.recent_sublist {reference : DateTime} {events : List (ScrubbedEvent F)}
    (nest : WindowsNest reference events) : ∀ window ∈ windows,
      (recent reference window.2 events).Sublist (recent reference (7 * dayMicros) events) := by
  -- The widest window holds itself, the narrower ones by nesting.
  obtain ⟨hourly, daily⟩ := nest.sublists
  simp only [windows, List.forall_mem_cons, List.not_mem_nil, false_implies, implies_true, and_true]
  exact ⟨hourly.trans daily, daily, List.Sublist.refl _⟩

/-- The events of a window are those that the chained comparison finds. -/
theorem windowEvents_eq {start reference : DateTime} {duration : Int}
    {events : List (ScrubbedEvent F)} (started : reference.minus duration = .ok start)
    (same : ∀ event ∈ events, event.timestamp.aware = reference.aware) :
    windowEvents start reference events = .ok (recent reference duration events) := by
  have kind := (DateTime.minus_eq_ok started).2.2.1
  simp only [recent, inWindow, started]
  -- No comparison raises, since all timestamps are of the kind of the reference time.
  induction events with
  | nil => rfl
  | cons event events ih =>
    have headSame := same event (by simp)
    have rest := ih fun other inside => same other (by simp [inside])
    by_cases begun : start.later event.timestamp ≤ 0
    · by_cases within : event.timestamp.later reference ≤ 0 <;>
        simp [windowEvents, DateTime.le, kind, headSame, rest, begun, within]
    · simp [windowEvents, DateTime.le, kind, headSame, rest, begun]

/-- All events are of the kind of the latest one. -/
theorem latest_timestamps {event : ScrubbedEvent F} {events : List (ScrubbedEvent F)}
    {reference : DateTime}
    (found : DateTime.latest event.timestamp (events.map ScrubbedEvent.timestamp) = .ok reference) :
    ∀ other ∈ event :: events, other.timestamp.aware = reference.aware := by
  -- The timestamps that were compared are those of the events.
  obtain ⟨_, same⟩ := DateTime.latest_eq_ok found
  rw [← List.map_cons] at same
  exact fun other member => same _ (List.mem_map_of_mem member)

variable [Statistics F] [OfScientific F]

/-- A summary counts the values that it is made from. -/
theorem stats_count {values : List F} {summary : Stats F} (returned : stats values = .ok summary) :
    summary.count = values.length := by
  -- The count is the number of values in both branches that return.
  unfold stats at returned
  split at returned
  case isTrue empty =>
    cases returned
    exact empty.symm
  case isFalse =>
    obtain ⟨mean, _, returned⟩ := bind_eq_ok.mp returned
    obtain ⟨std, _, returned⟩ := bind_eq_ok.mp returned
    cases returned
    rfl

/-- The summaries that are stored for one window. -/
def setWindow (window : String) (hours durations bytes : Stats F) (addresses : Nat)
    (features : Dict String F) : Dict String F :=
  -- The order of the four metrics is the order of the source's updates.
  setStats "unique_ip_count" window ⟨Statistics.ofCount addresses, 0.0, addresses⟩
    (setStats "bytes_out" window bytes
      (setStats "session_duration_s" window durations (setStats "login_hour" window hours features)))

/-- The features of a window are the summaries of its hours, durations, amounts and addresses. -/
theorem windowFeatures_eq_ok {window : String} {inside : List (ScrubbedEvent F)}
    {features result : Dict String F} :
    windowFeatures window inside features = .ok result ↔
      ∃ (hours bytes : List F) (first second third : Stats F),
        (inside.mapM fun event => Statistics.ofInt event.loginHour) = .ok hours ∧
        (bytesOf inside).mapM Statistics.ofInt = .ok bytes ∧ stats hours = .ok first ∧
        stats (durationsOf inside) = .ok second ∧ stats bytes = .ok third ∧
        result = setWindow window first second third (addressesOf inside).length features := by
  -- The computation returns when each of its parts does.
  constructor
  · intro returned
    obtain ⟨hours, hoursRead, returned⟩ := bind_eq_ok.mp returned
    obtain ⟨bytes, bytesRead, returned⟩ := bind_eq_ok.mp returned
    obtain ⟨first, firstRead, returned⟩ := bind_eq_ok.mp returned
    obtain ⟨second, secondRead, returned⟩ := bind_eq_ok.mp returned
    obtain ⟨third, thirdRead, returned⟩ := bind_eq_ok.mp returned
    cases returned
    exact ⟨hours, bytes, first, second, third, hoursRead, bytesRead, firstRead, secondRead,
      thirdRead, rfl⟩
  · rintro ⟨hours, bytes, first, second, third, hoursRead, bytesRead, firstRead, secondRead,
      thirdRead, rfl⟩
    simp only [bytesOf, durationsOf] at bytesRead secondRead firstRead thirdRead
    simp only [windowFeatures, hoursRead, bytesRead, firstRead, secondRead, thirdRead, ok_bind]
    rfl

/-- The features that are computed from a reference time on, once the windows are known to exist. -/
def recentFeatures (reference : DateTime) (events : List (ScrubbedEvent F)) :
    Except PyError (Dict String F) := do
  -- The windows are filled in the order of the source.
  let features ← windowFeatures "1h" (recent reference hourMicros events) .empty
  let features ← windowFeatures "24h" (recent reference (24 * hourMicros) events) features
  windowFeatures "7d" (recent reference (7 * dayMicros) events) features

/-- One window: when it starts in year 1 or later, it has the features of the recent events, and the other
windows follow. -/
theorem windowsFeatures_cons {reference : DateTime} {events : List (ScrubbedEvent F)}
    (same : ∀ event ∈ events, event.timestamp.aware = reference.aware) {duration : Int}
    (nonneg : 0 ≤ duration) (name : String) (rest : List (String × Int)) (features : Dict String F) :
    windowsFeatures reference events ((name, duration) :: rest) features =
      if duration ≤ reference.micros then
        windowFeatures name (recent reference duration events) features >>=
          windowsFeatures reference events rest
      else .error (.overflowError "date value out of range") := by
  -- The start keeps the kind of the reference time, so no comparison with it raises.
  rw [windowsFeatures]
  split
  case isTrue fits =>
    obtain ⟨start, started⟩ := DateTime.exists_minus nonneg fits
    rw [started, ok_bind, windowEvents_eq started same, ok_bind]
  case isFalse early =>
    have raised : reference.minus duration = .error (.overflowError "date value out of range") :=
      dif_neg (by omega)
    rw [raised, error_bind]

/-- When the aggregates return, they are those of the recent events, and the windows exist. -/
theorem computeAggregates_eq_ok {event : ScrubbedEvent F} {events : List (ScrubbedEvent F)}
    {features : Dict String F}
    (returned : computeAggregates (event :: events) = .ok features) :
    ∃ reference, DateTime.latest event.timestamp (events.map ScrubbedEvent.timestamp) = .ok reference ∧
      7 * dayMicros ≤ reference.micros ∧
      recentFeatures reference (event :: events) = .ok features := by
  -- The windows are computed one after another, and each of them has returned.
  obtain ⟨reference, found, returned⟩ := bind_eq_ok.mp returned
  have same := latest_timestamps found
  rw [windows, windowsFeatures_cons same (by decide)] at returned
  split at returned
  case isFalse => cases returned
  obtain ⟨hourly, hourlyRead, returned⟩ := bind_eq_ok.mp returned
  rw [windowsFeatures_cons same (by decide)] at returned
  split at returned
  case isFalse => cases returned
  obtain ⟨daily, dailyRead, returned⟩ := bind_eq_ok.mp returned
  rw [windowsFeatures_cons same (by decide)] at returned
  split at returned
  case isFalse => cases returned
  case isTrue fits =>
    obtain ⟨weekly, weeklyRead, returned⟩ := bind_eq_ok.mp returned
    cases returned
    exact ⟨reference, found, fits, by simp only [recentFeatures, hourlyRead, dailyRead, weeklyRead,
      ok_bind]⟩

/-- When the longest window exists, the aggregates are those of the recent events. -/
theorem computeAggregates_eq {event : ScrubbedEvent F} {events : List (ScrubbedEvent F)}
    {reference : DateTime}
    (found : DateTime.latest event.timestamp (events.map ScrubbedEvent.timestamp) = .ok reference)
    (fits : 7 * dayMicros ≤ reference.micros) :
    computeAggregates (event :: events) = recentFeatures reference (event :: events) := by
  -- The shorter windows start later, so they exist too.
  have same := latest_timestamps found
  have exists_window : ∀ duration, duration ≤ 7 * dayMicros → duration ≤ reference.micros :=
    fun duration short => short.trans fits
  rw [computeAggregates, found, ok_bind, windows, windowsFeatures_cons same (by decide),
    if_pos (exists_window _ (by decide)), recentFeatures]
  congr 1
  funext hourly
  rw [windowsFeatures_cons same (by decide), if_pos (exists_window _ (by decide))]
  congr 1
  funext daily
  rw [windowsFeatures_cons same (by decide), if_pos fits]
  cases windowFeatures "7d" (recent reference (7 * dayMicros) (event :: events)) daily <;> rfl

end Absm
