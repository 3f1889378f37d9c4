import Absm.Proofs.Features.WellFormedFeatures
import Absm.Proofs.Features.SessionOrder

/-! Features depend neither on the order of the events nor on events that a window has left behind. -/

namespace Absm

/-! ### Windows -/

section Windows

variable {F : Type}

/-- The events that are not older than a time. -/
def notBefore (start : DateTime) (events : List (ScrubbedEvent F)) : List (ScrubbedEvent F) :=
  -- An event at the start itself is kept.
  events.filter fun event => start.later event.timestamp ≤ 0

/-- A second list of events differs from a first one at most in the order and in events that are more than
a duration older than the newest event of the first one. -/
def SameSince (duration : Int) (events others : List (ScrubbedEvent F)) : Prop :=
  -- Only the events since the start have to be the same, in any order.
  ∃ newest start, newestEvent events = some newest ∧ newest.timestamp.minus duration = .ok start ∧
    (notBefore start others).Perm (notBefore start events)

/-- The timestamps order the events, and what is older than the start of a window of one of the newest events
is older than each of the newest events and than the starts of the windows of these that are not longer. -/
structure SettledTimes (events : List (ScrubbedEvent F)) : Prop where
  /-- The timestamps order the events. -/
  transitive : TransitiveTimes events
  /-- What is too old for a window is too old for the newest events and for their windows. -/
  older : ∀ first, Newest events first → ∀ second, Newest events second → ∀ window ∈ windows, ∀ start,
    first.timestamp.minus window.2 = .ok start → ∀ time, time.aware = start.aware → 0 < start.later time →
      0 < second.timestamp.later time ∧ ∀ shorter ∈ windows, shorter.2 ≤ window.2 → ∀ other,
        second.timestamp.minus shorter.2 = .ok other → 0 < other.later time

/-- Where no offset ever changes, all of this is said about instants, and holds. -/
theorem settledTimes_of_constant {events : List (ScrubbedEvent F)}
    (constant : ∀ event ∈ events, event.timestamp.tzinfo.Constant) : SettledTimes events := by
  have clocks : ∀ left ∈ events, ∀ right ∈ events,
      (earlier left right = false ↔ right.timestamp.clock ≤ left.timestamp.clock) := by
    intro left _ right rightIn
    rw [earlier, decide_eq_false_iff_not, DateTime.later_of_constant (constant right rightIn)]
    omega
  refine ⟨(coherentTimes_of_constant constant).transitive, ?_⟩
  · rintro first ⟨firstIn, firstTop⟩ second ⟨secondIn, secondTop⟩ window windowIn start started time _ old
    -- The newest events happened at one instant, and the starts are so many microseconds before it.
    have positive : ∀ window ∈ windows, 0 < window.2 := by decide
    have length := positive window windowIn
    have below := (clocks first firstIn second secondIn).mp (firstTop second secondIn)
    have above := (clocks second secondIn first firstIn).mp (secondTop first firstIn)
    obtain ⟨ago, startConstant⟩ := DateTime.minus_clock (constant first firstIn) started
    rw [DateTime.later_of_constant_left startConstant] at old
    refine ⟨?_, fun shorter _ short other otherStarted => ?_⟩
    · rw [DateTime.later_of_constant_left (constant second secondIn)]
      omega
    · obtain ⟨otherAgo, otherConstant⟩ := DateTime.minus_clock (constant second secondIn) otherStarted
      rw [DateTime.later_of_constant_left otherConstant]
      omega

/-- No event is later than a newest one, so an event is in a window when it is not older than its start. -/
theorem Newest.inWindow_iff {events : List (ScrubbedEvent F)} {newest event : ScrubbedEvent F}
    (top : Newest events newest) (member : event ∈ events) {duration : Int} {start : DateTime}
    (started : newest.timestamp.minus duration = .ok start) :
    inWindow newest.timestamp duration event.timestamp = true ↔ ¬ 0 < start.later event.timestamp := by
  -- The newest is not before the event, so only the start decides.
  have unbeaten := top.2 event member
  rw [earlier, decide_eq_false_iff_not, DateTime.later_swap] at unbeaten
  simp only [inWindow, started, Bool.and_eq_true, decide_eq_true_eq]
  omega

/-- Every window of one of the newest events has a start when the longest ones have. -/
theorem exists_start {events : List (ScrubbedEvent F)} {newest : ScrubbedEvent F}
    (fits : ∀ newest, Newest events newest → 7 * dayMicros ≤ newest.timestamp.micros)
    (top : Newest events newest) : ∀ window ∈ windows, ∃ start, newest.timestamp.minus window.2 = .ok start := by
  -- No window is longer than a week.
  have durations : ∀ window ∈ windows, 0 ≤ window.2 ∧ window.2 ≤ 7 * dayMicros := by decide
  intro window windowIn
  obtain ⟨nonneg, weekly⟩ := durations window windowIn
  exact DateTime.exists_minus nonneg (weekly.trans (fits newest top))

/-- The events of a second list that are not in the first one are older than a time, when the lists have the
same events since then. -/
theorem mem_or_older {start : DateTime} {events others : List (ScrubbedEvent F)}
    (perm : (notBefore start others).Perm (notBefore start events)) :
    ∀ event ∈ others, event ∈ events ∨ 0 < start.later event.timestamp := by
  -- An event that is not older is kept in both lists.
  intro event member
  by_cases old : 0 < start.later event.timestamp
  · exact .inr old
  · exact .inl (List.mem_of_mem_filter (perm.mem_iff.mp (List.mem_filter.mpr ⟨member,
      decide_eq_true (not_lt.mp old)⟩)))

section Settled

variable {events others : List (ScrubbedEvent F)} (settled : SettledTimes events)
  {newest : ScrubbedEvent F} (top : Newest events newest) {window : String × Int} (windowIn : window ∈ windows)
  {start : DateTime} (started : newest.timestamp.minus window.2 = .ok start)

include settled top windowIn started

/-- When all further events are older than a window of one of the newest events and this one is among them, the
newest of all is one of the newest events. -/
theorem SettledTimes.newest_others (shared : newest ∈ others)
    (kinds : ∀ event ∈ others, event.timestamp.aware = start.aware)
    (classified : ∀ event ∈ others, event ∈ events ∨ 0 < start.later event.timestamp) :
    ∃ other, newestEvent others = some other ∧ Newest events other := by
  have behind := fun item (itemTop : Newest events item) event member old =>
    (settled.older newest top item itemTop window windowIn start started event.timestamp
      (kinds event member) old).1
  cases others with
  | nil => cases shared
  | cons head tail =>
    refine ⟨_, rfl, runningMax_top ⟨newest, shared, top⟩ ?_ ?_⟩
    · -- Nothing is later than a newest event.
      intro item itemIn itemTop event member
      rcases classified event member with inside | old
      · exact itemTop.2 event inside
      · have positive := behind item itemTop event member old
        rw [earlier, decide_eq_false_iff_not]
        omega
    · -- A newest event is later than all that are not newest.
      intro item itemIn itemTop event member notTop
      rcases classified event member with inside | old
      · by_contra notEarlier
        exact notTop ⟨inside, fun third thirdIn => settled.transitive third thirdIn item itemTop.1
          event inside (itemTop.2 third thirdIn) (Bool.eq_false_iff.mpr notEarlier)⟩
      · have positive := behind item itemTop event member old
        rw [DateTime.later_swap] at positive
        rw [earlier, decide_eq_true_eq]
        omega

/-- What is older than a window of one of the newest events is in no window of another one that is not
longer. -/
theorem SettledTimes.expired (fits : ∀ newest, Newest events newest → 7 * dayMicros ≤ newest.timestamp.micros)
    {second : ScrubbedEvent F} (secondTop : Newest events second) {shorter : String × Int}
    (shorterIn : shorter ∈ windows) (short : shorter.2 ≤ window.2) {time : DateTime}
    (kind : time.aware = start.aware) (old : 0 < start.later time) :
    inWindow second.timestamp shorter.2 time = false := by
  -- It is before the start of that window.
  obtain ⟨begin, begun⟩ := exists_start fits secondTop shorter shorterIn
  have past := (settled.older newest top second secondTop window windowIn start started time kind old).2
    shorter shorterIn short begin begun
  simp only [inWindow, begun, Bool.and_eq_false_iff, decide_eq_false_iff_not]
  omega

/-- An event that is in a window of one of the newest events is in that of another one. -/
theorem SettledTimes.inWindow_of (comparable : ComparableTimes events) {second : ScrubbedEvent F}
    (secondTop : Newest events second) {begin : DateTime}
    (begun : second.timestamp.minus window.2 = .ok begin) {event : ScrubbedEvent F} (member : event ∈ events)
    (inside : inWindow second.timestamp window.2 event.timestamp = true) :
    inWindow newest.timestamp window.2 event.timestamp = true := by
  have kind := (DateTime.minus_eq_ok started).2.2.1
  have same := (comparableTimes_iff _).mp comparable event member newest top.1
  rw [top.inWindow_iff member started]
  rw [secondTop.inWindow_iff member begun] at inside
  -- Otherwise it is older than the one window and so than the other.
  intro old
  exact inside ((settled.older newest top second secondTop window windowIn start started event.timestamp
    (same.trans kind.symm) old).2 window windowIn le_rfl begin begun)

end Settled

/-- Lists that differ at most in expired events end at a newest event of the first list, and have the same
events in their windows. -/
theorem SameSince.windows {events others : List (ScrubbedEvent F)} (settled : SettledTimes events)
    (fits : ∀ newest, Newest events newest → 7 * dayMicros ≤ newest.timestamp.micros)
    (eventsComparable : ComparableTimes events) {window : String × Int} (windowIn : window ∈ windows)
    (same : SameSince window.2 events others) (comparable : ComparableTimes others) :
    ∃ newest, newestEvent others = some newest ∧ Newest events newest ∧
      ∀ shorter ∈ Absm.windows, shorter.2 ≤ window.2 →
        (windowOf others shorter.2).Perm (windowOf events shorter.2) := by
  obtain ⟨newest, start, found, started, perm⟩ := same
  have top := newest_of_newestEvent settled.transitive found
  obtain ⟨-, -, kind, moved⟩ := DateTime.minus_eq_ok started
  rw [DateTime.later_swap] at moved
  -- The newest event has not expired, so it is in both lists.
  have shared : newest ∈ others := by
    have nonneg : ∀ window ∈ Absm.windows, 0 ≤ window.2 := by decide
    refine List.mem_of_mem_filter (perm.mem_iff.mpr (List.mem_filter.mpr ⟨top.1, ?_⟩))
    have length := nonneg window windowIn
    rw [decide_eq_true_eq]
    omega
  have kinds : ∀ event ∈ others, event.timestamp.aware = start.aware := fun event member =>
    ((comparableTimes_iff _).mp comparable event member newest shared).trans kind.symm
  have eventKinds : ∀ event ∈ events, event.timestamp.aware = start.aware := fun event member =>
    ((comparableTimes_iff _).mp eventsComparable event member newest top.1).trans kind.symm
  have classified := mem_or_older perm
  obtain ⟨other, otherFound, otherTop⟩ := settled.newest_others top windowIn started shared kinds classified
  refine ⟨other, otherFound, otherTop, fun shorter shorterIn short => ?_⟩
  obtain ⟨late, lateStarted⟩ := exists_start fits top shorter shorterIn
  obtain ⟨otherLate, otherStarted⟩ := exists_start fits otherTop shorter shorterIn
  have expired : ∀ (second : ScrubbedEvent F), Newest events second → ∀ (time : DateTime),
      time.aware = start.aware → 0 < start.later time →
      inWindow second.timestamp shorter.2 time = false := fun second secondTop time kind old =>
    settled.expired top windowIn started fits secondTop shorterIn short kind old
  -- Both newest events have the same events in the window.
  have one : recent other.timestamp shorter.2 others = recent newest.timestamp shorter.2 others := by
    refine List.filter_congr fun event member => ?_
    rcases classified event member with inside | old
    · rw [Bool.eq_iff_iff]
      exact ⟨settled.inWindow_of top shorterIn lateStarted eventsComparable otherTop otherStarted inside,
        settled.inWindow_of otherTop shorterIn otherStarted eventsComparable top lateStarted inside⟩
    · rw [expired other otherTop _ (kinds event member) old, expired newest top _ (kinds event member) old]
  -- What has expired is in neither list's window.
  have kept : ∀ list : List (ScrubbedEvent F), (∀ event ∈ list, event.timestamp.aware = start.aware) →
      recent newest.timestamp shorter.2 list = (notBefore start list).filter fun event =>
        inWindow newest.timestamp shorter.2 event.timestamp := by
    intro list listKinds
    rw [recent, notBefore, List.filter_filter]
    refine List.filter_congr fun event member => ?_
    by_cases old : 0 < start.later event.timestamp
    · rw [expired newest top _ (listKinds event member) old, Bool.false_and]
    · rw [decide_eq_true (not_lt.mp old), Bool.and_true]
  rw [windowOf_newest otherFound, windowOf_newest found, one, kept others kinds, kept events eventKinds]
  exact perm.filter _

/-- Lists of the same events are as new as each other. -/
theorem sameSince_of_perm {events others : List (ScrubbedEvent F)} {newest : ScrubbedEvent F} {duration : Int}
    (found : newestEvent events = some newest) (nonneg : 0 ≤ duration)
    (fits : duration ≤ newest.timestamp.micros) (perm : events.Perm others) :
    SameSince duration events others := by
  -- All events are the same, so those since the start are.
  obtain ⟨start, started⟩ := DateTime.exists_minus nonneg fits
  exact ⟨newest, start, found, started, perm.symm.filter _⟩

end Windows


/-! ### Features -/

variable {K : Type} [Field K]

/-- The same events have the same values. -/
theorem metricValues_perm {inside others : List (ScrubbedEvent (ExtFloat K))}
    (perm : inside.Perm others) (metric : String) :
    (metricValues metric inside).Perm (metricValues metric others) := by
  -- Values are mapped and filtered out of the events.
  unfold metricValues
  split
  · exact perm.map _
  · exact (perm.filterMap _).filterMap _
  · exact (perm.filterMap _).map _
  · exact List.Perm.refl _

variable [SquareRoot K]

/-- The same numbers have the same summary. -/
theorem exactStats_perm {values others : List K} (perm : values.Perm others) :
    exactStats values = exactStats others := by
  -- Sum, length and variance do not depend on the order.
  rw [exactStats, exactStats, perm.sum_eq, perm.length_eq, ExtFloat.variance_perm perm]

/-- The same events have the same summaries. -/
theorem exactWindow_perm {inside others : List (ScrubbedEvent (ExtFloat K))}
    (perm : inside.Perm others) : exactWindow inside = exactWindow others := by
  -- Sums, lengths and numbers of different addresses do not depend on an order.
  have addresses : (addressesOf inside).length = (addressesOf others).length :=
    (perm.filterMap _).dedup.length_eq
  rw [exactWindow, exactWindow, summariesWith, summariesWith, addresses]
  simp only [exactStats_perm (metricValues_perm perm _)]

variable [LinearOrder K]

/-- Features of some events do not depend on the order of these, and those of a window do not depend on
events that are older than it. -/
structure OrderFreeAndLocal (events : List (ScrubbedEvent (ExtFloat K)))
    (features : Dict String (ExtFloat K)) : Prop where
  /-- The events have these features in every order. -/
  order : ∀ others, events.Perm others → computeAggregates others = .ok features
  /-- Expired events leave the features of a window alone. -/
  window : ∀ window ∈ windows, ∀ others, SameSince window.2 events others →
    ComparableTimes others → (∀ x ∈ durationsOf others, x.IsFinite) →
    ∃ otherFeatures, computeAggregates others = .ok otherFeatures ∧
      ∀ key ∈ windowKeys window.1, otherFeatures.get? key = features.get? key
  /-- Events that are older than the longest window leave all features alone. -/
  week : ∀ others, SameSince (7 * dayMicros) events others →
    ComparableTimes others → (∀ x ∈ durationsOf others, x.IsFinite) →
    computeAggregates others = .ok features

variable [IsStrictOrderedRing K] [LawfulSquareRoot K]

/-- An event when it is half past midnight on the eighth day of year 1, one hour ahead of UTC. -/
def aheadEvent : ScrubbedEvent (ExtFloat ℝ) :=
  -- Half an hour after the end of the first week, by its own clock.
  ⟨1, ⟨7 * dayMicros + hourMicros / 2, .fixed hourAhead, by decide⟩, "auth", 0,
    none, none, none, none⟩

/-- An event at the same instant, with its time in UTC. -/
def utcEvent : ScrubbedEvent (ExtFloat ℝ) :=
  -- The same instant in UTC.
  ⟨1, .utc (7 * dayMicros - hourMicros / 2) (by decide), "auth", 23, none, none, none, none⟩

/-- An event in Berlin, at half past one on the day after the clock was turned back. -/
def berlinEvent : ScrubbedEvent (ExtFloat ℝ) :=
  -- 01:30 on the day after the clocks went back.
  ⟨1, ⟨739186 * dayMicros + 90 * 60000000, .zone .berlin false, by decide⟩, "auth", 1, none, none, none, none⟩

/-- An event at the same instant, with its time in UTC. -/
def sameInstant : ScrubbedEvent (ExtFloat ℝ) :=
  -- The same instant in UTC.
  ⟨1, .utc (739186 * dayMicros + 30 * 60000000) (by decide), "auth", 0, none, none, none, none⟩

/-- An event twenty-four hours and fifty minutes before that. -/
def dayEarlier : ScrubbedEvent (ExtFloat ℝ) :=
  -- Ten minutes less than a day and an hour before.
  ⟨1, .utc (739185 * dayMicros - 20 * 60000000) (by decide), "auth", 23, none, none, none, none⟩

end Absm
