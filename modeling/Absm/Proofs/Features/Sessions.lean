import Absm.Features.SequenceBuilder

/-! The sessions of some events are the only split of their stable order at the long pauses. -/

namespace Absm

variable {F : Type}

/-! ### What sessions are -/

/-- Each two timestamps of some events can be compared. -/
def ComparableTimes (events : List (ScrubbedEvent F)) : Prop :=
  -- A naive time and an aware one do not compare.
  ∀ left ∈ events, ∀ right ∈ events, ∃ answer, left.timestamp.le right.timestamp = .ok answer

/-- Among some events what is not later goes on from one event to the next. -/
def TransitiveTimes (events : List (ScrubbedEvent F)) : Prop :=
  -- Not to be later is transitive.
  ∀ first ∈ events, ∀ second ∈ events, ∀ third ∈ events, earlier second first = false →
    earlier third second = false → earlier third first = false
  deriving Decidable

/-- The time from one event to another as the difference of their timestamps, in microseconds. -/
def pause (before after : ScrubbedEvent F) : Int :=
  -- In microseconds, and negative where the clocks are set back.
  after.timestamp.later before.timestamp

/-- Groups cut a list of events: no group is empty, and exactly the pauses that are too long separate two
groups. -/
structure SessionCut (ordered : List (ScrubbedEvent F)) (groups : List (List (ScrubbedEvent F))) :
    Prop where
  /-- The groups make up the list. -/
  whole : groups.flatten = ordered
  /-- No group is empty. -/
  nonempty : [] ∉ groups
  /-- No pause in a group is too long. -/
  together : ∀ group ∈ groups, group.IsChain fun before after => pause before after ≤ sessionGap
  /-- Each pause between two groups is too long. -/
  apart : groups.IsChain fun before after => ∃ last ∈ before.getLast?, ∃ first ∈ after.head?,
    sessionGap < pause last first

/-- Groups of events split some events when they cut their stable order. -/
structure SessionSplit (events : List (ScrubbedEvent F)) (groups : List (List (ScrubbedEvent F))) :
    Prop where
  /-- The groups make up the events sorted by timestamp. -/
  ordered : StableOrder earlier events groups.flatten
  /-- The groups cut what they make up. -/
  cut : SessionCut groups.flatten groups

/-- How many pauses of a list of events are too long. -/
def longPauses (ordered : List (ScrubbedEvent F)) : Nat :=
  -- The pauses between neighbours.
  (ordered.zip ordered.tail).countP fun pair => sessionGap < pause pair.1 pair.2

/-! ### There is one split -/

/-- Whether one session goes on from an event to the next one. -/
def goesOn (before after : ScrubbedEvent F) : Bool :=
  -- A pause as long as the gap still goes on.
  pause before after ≤ sessionGap

/-- The events as they are sorted. -/
def orderedEvents (events : List (ScrubbedEvent F)) : List (ScrubbedEvent F) :=
  -- The order that `sorted` gives when nothing raises.
  sorted earlier events

/-- The events of each session. -/
def sessionEvents (events : List (ScrubbedEvent F)) : List (List (ScrubbedEvent F)) :=
  -- Cut wherever a pause is longer than the gap.
  (orderedEvents events).splitBy goesOn

/-- The ordered events are the events. -/
theorem orderedEvents_perm (events : List (ScrubbedEvent F)) : (orderedEvents events).Perm events :=
  -- Sorting loses and adds nothing.
  sorted_perm earlier events

/-- Where what is not later is transitive, the timestamps order the events. -/
theorem TransitiveTimes.orders {events : List (ScrubbedEvent F)} (transitive : TransitiveTimes events) :
    Orders earlier events where
  asymm first _ second _ isEarlier := by
    -- Seen from the other side the difference has the opposite sign.
    have swap := DateTime.later_swap first.timestamp second.timestamp
    simp only [earlier, decide_eq_true_eq, decide_eq_false_iff_not] at isEarlier ⊢
    omega
  trans := transitive

/-- The rule for neighbouring groups, with and without the proofs that these are not empty. -/
private theorem apart_iff (before after : List (ScrubbedEvent F)) :
    (∃ last ∈ before.getLast?, ∃ first ∈ after.head?, sessionGap < pause last first) ↔
      ∃ left right, goesOn (before.getLast left) (after.head right) = false := by
  -- Both sides say that neither list is empty.
  constructor
  · intro found
    obtain ⟨last, isLast, first, isFirst, long⟩ := found
    have left : before ≠ [] := by
      rintro rfl
      cases isLast
    have right : after ≠ [] := by
      rintro rfl
      cases isFirst
    rw [List.getLast?_eq_some_getLast left] at isLast
    rw [List.head?_eq_some_head right] at isFirst
    cases isLast
    cases isFirst
    exact ⟨left, right, by simpa [goesOn] using long⟩
  · intro found
    obtain ⟨left, right, long⟩ := found
    exact ⟨_, List.getLast?_eq_some_getLast left, _, List.head?_eq_some_head right,
      by simpa [goesOn] using long⟩

/-- There is one way to cut a list. -/
theorem sessionCut_iff (ordered : List (ScrubbedEvent F)) (groups : List (List (ScrubbedEvent F))) :
    SessionCut ordered groups ↔ groups = ordered.splitBy goesOn := by
  -- The groups are what the list is split into, with the rule for neighbours written out.
  have unique := List.splitBy_eq_iff (r := goesOn) (m := ordered) (l := groups)
  simp only [← apart_iff] at unique
  simp only [goesOn, decide_eq_true_eq] at unique
  rw [eq_comm]
  exact ⟨fun cut => unique.mpr ⟨cut.whole.symm, cut.nonempty, cut.together, cut.apart⟩, fun same =>
    have ⟨whole, nonempty, together, apart⟩ := unique.mp same
    ⟨whole.symm, nonempty, together, apart⟩⟩

/-- Groups split the sessions of some events exactly when they are these sessions. -/
theorem sessionSplit_iff {events : List (ScrubbedEvent F)} (transitive : TransitiveTimes events)
    (groups : List (List (ScrubbedEvent F))) :
    SessionSplit events groups ↔ groups = sessionEvents events := by
  rw [sessionEvents, ← sessionCut_iff]
  constructor
  · -- There is one stable order, and one way of cutting it.
    intro split
    have one := transitive.orders.unique transitive.orders.stableOrder split.ordered
    rw [orderedEvents, one]
    exact split.cut
  · intro cut
    have whole := cut.whole
    exact ⟨whole ▸ transitive.orders.stableOrder, whole ▸ cut⟩

/-- The sessions make up the ordered events. -/
@[simp] theorem flatten_sessionEvents (events : List (ScrubbedEvent F)) :
    (sessionEvents events).flatten = orderedEvents events :=
  -- Splitting cuts between events only.
  List.flatten_splitBy ..

/-- There is one session more than there are pauses that are too long. -/
theorem length_sessionEvents {events : List (ScrubbedEvent F)} (nonempty : events ≠ []) :
    (sessionEvents events).length = 1 + longPauses (orderedEvents events) := by
  -- Sorting leaves a first event.
  cases whole : orderedEvents events with
  | nil =>
    have same := orderedEvents_perm events
    rw [whole] at same
    exact absurd (List.nil_perm.mp same) nonempty
  | cons first rest =>
    have counted := length_splitBy (goesOn (F := F)) first rest
    simpa [sessionEvents, whole, longPauses, goesOn, ← decide_not] using counted

/-! ### The loop forms it -/

/-- Each two comparable timestamps are of one kind. -/
theorem comparableTimes_iff (events : List (ScrubbedEvent F)) :
    ComparableTimes events ↔ ∀ left ∈ events, ∀ right ∈ events,
      left.timestamp.aware = right.timestamp.aware := by
  -- The comparison looks at the kinds first.
  have single (left right : DateTime) :
      (∃ answer, left.le right = .ok answer) ↔ left.aware = right.aware := by
    unfold DateTime.le
    split <;> simp [*]
  simp only [ComparableTimes, single]

/-- Sorting returns exactly when the timestamps are comparable. -/
theorem sortedByTimestamp_eq_ok (events ordered : List (ScrubbedEvent F)) :
    sortedByTimestamp events = .ok ordered ↔ ComparableTimes events ∧ ordered = orderedEvents events := by
  -- Incomparable times are found before anything is sorted.
  rw [comparableTimes_iff, sortedByTimestamp]
  split
  case isTrue same =>
    rw [Except.ok.injEq, eq_comm]
    exact (and_iff_right same).symm
  case isFalse differ => exact iff_of_false (by simp) fun both => differ both.1

/-- The tokens of a group of events. -/
def groupTokens (eventIndex : Dict String Int) (group : List (ScrubbedEvent F)) : List Int :=
  -- Types without a number get the padding token.
  group.map fun event => tokenOf eventIndex event.eventType

/-- The loop goes on from a state in which a group of events is current: the rest of the events is cut
as if it were read together with this group. -/
theorem foldlM_sessionStep (eventIndex : Dict String Int) (sessions : List (List Int))
    (group : List (ScrubbedEvent F)) (last : ScrubbedEvent F) (rest : List (ScrubbedEvent F))
    (chain : (group ++ [last]).IsChain (goesOn · ·))
    (same : ∀ event ∈ rest, event.timestamp.aware = last.timestamp.aware) :
    ∃ loop, rest.foldlM (SessionLoop.step eventIndex)
        ⟨sessions, groupTokens eventIndex (group ++ [last]), last.timestamp⟩ = .ok loop ∧
      loop.flushed = sessions ++
        ((group ++ last :: rest).splitBy goesOn).map (groupTokens eventIndex) := by
  induction rest generalizing sessions group last with
  | nil =>
    -- What is current at the end is flushed behind the loop.
    refine ⟨_, rfl, ?_⟩
    rw [List.splitBy_of_isChain (by simp) chain]
    simp [SessionLoop.flushed, groupTokens]
  | cons event rest ih =>
    have kind := same event (List.mem_cons_self ..)
    have others : ∀ other ∈ rest, other.timestamp.aware = event.timestamp.aware := fun other inside =>
      (same other (List.mem_cons_of_mem _ inside)).trans kind.symm
    have moved : event.timestamp.elapsed last.timestamp = .ok (pause last event) := by
      rw [DateTime.elapsed, if_pos kind, pause]
    rw [List.foldlM_cons, SessionLoop.step, moved]
    by_cases long : sessionGap < pause last event
    · -- The current group is a session, and the event starts the next one.
      have stops : goesOn last event = false := by simpa [goesOn] using long
      obtain ⟨loop, run, final⟩ := ih
        (sessions ++ [groupTokens eventIndex (group ++ [last])]) [] event (by simp) others
      refine ⟨loop, ?_, ?_⟩
      · simpa [long, SessionLoop.flushed, groupTokens] using run
      · have cut := List.splitBy_append_cons (r := goesOn) rest (l := group ++ [last]) (a := event)
          (by simpa using stops)
        rw [List.splitBy_of_isChain (by simp) chain] at cut
        rw [final, show group ++ last :: event :: rest = (group ++ [last]) ++ event :: rest by simp,
          cut]
        simp
    · -- The event joins the current group.
      have joins : goesOn last event = true := by simpa [goesOn] using long
      have longer : ((group ++ [last]) ++ [event]).IsChain (goesOn · ·) :=
        List.isChain_append.mpr ⟨chain, by simp, by simpa using joins⟩
      obtain ⟨loop, run, final⟩ := ih sessions _ _ longer others
      refine ⟨loop, ?_, ?_⟩
      · simpa [long, groupTokens] using run
      · simpa using final

/-- The sessions of comparable events are formed, with the tokens of their events. -/
theorem formSessions_of_comparable {events : List (ScrubbedEvent F)} (nonempty : events ≠ [])
    (comparable : ComparableTimes events) :
    formSessions events =
      .ok ((sessionEvents events).map (groupTokens (buildEventIndex events))) := by
  have sorted := (sortedByTimestamp_eq_ok events _).mpr ⟨comparable, rfl⟩
  have same := (comparableTimes_iff events).mp comparable
  have inside : ∀ event ∈ orderedEvents events, event ∈ events := fun event member =>
    (orderedEvents_perm events).mem_iff.mp member
  rw [formSessions, sorted, ok_bind]
  cases whole : orderedEvents events with
  | nil =>
    have same := orderedEvents_perm events
    rw [whole] at same
    exact absurd (List.nil_perm.mp same) nonempty
  | cons first rest =>
    rw [whole] at inside
    have kinds : ∀ event ∈ rest, event.timestamp.aware = first.timestamp.aware := fun event member =>
      same event (inside event (List.mem_cons_of_mem _ member)) first
        (inside first (List.mem_cons_self ..))
    -- The first event is read without a pause, so it starts the first session.
    obtain ⟨loop, run, final⟩ := foldlM_sessionStep (buildEventIndex events) [] [] first rest
      (by simp) kinds
    have started : SessionLoop.step (buildEventIndex events) ⟨[], [], first.timestamp⟩ first =
        .ok ⟨[], groupTokens (buildEventIndex events) [first], first.timestamp⟩ := by
      simp [SessionLoop.step, DateTime.elapsed, sessionGap, groupTokens]
    simp only [List.foldlM_cons, started, ok_bind]
    rw [List.nil_append] at run
    rw [run, ok_bind, final]
    simp [sessionEvents, whole]

/-- Events whose sessions are formed are comparable. -/
theorem formSessions_eq_ok {events : List (ScrubbedEvent F)} (nonempty : events ≠ [])
    (sessions : List (List Int)) :
    formSessions events = .ok sessions ↔ ComparableTimes events ∧
      sessions = (sessionEvents events).map (groupTokens (buildEventIndex events)) := by
  -- Only the sort can raise.
  constructor
  · intro returned
    obtain ⟨ordered, sorted, -⟩ := bind_eq_ok.mp returned
    have comparable := ((sortedByTimestamp_eq_ok events ordered).mp sorted).1
    rw [formSessions_of_comparable nonempty comparable] at returned
    exact ⟨comparable, (Except.ok.inj returned).symm⟩
  · intro both
    rw [formSessions_of_comparable nonempty both.1, both.2]

/-- The rows that are built are the token lists of the sessions at their common length. -/
theorem buildSessionSequences_eq_ok {events : List (ScrubbedEvent F)} (nonempty : events ≠ [])
    {maxLen : Int} (positive : 0 < maxLen) (batch : TokenBatch) :
    buildSessionSequences events maxLen = .ok batch ↔ ComparableTimes events ∧
      batch.width = maxLen.toNat ∧ batch.rows = (sessionEvents events).map fun group =>
        padOrTruncate (groupTokens (buildEventIndex events) group) maxLen.toNat := by
  -- A batch is its width and its rows.
  have same (left right : TokenBatch) :
      left = right ↔ left.width = right.width ∧ left.rows = right.rows := by
    cases left
    cases right
    simp
  simp only [buildSessionSequences, if_neg (not_le.mpr positive), if_neg nonempty, bind_eq_ok,
    formSessions_eq_ok nonempty, pure_eq_ok, Except.ok.injEq]
  constructor
  · intro returned
    obtain ⟨sessions, ⟨comparable, rfl⟩, rfl⟩ := returned
    exact ⟨comparable, rfl, by simp⟩
  · intro all
    obtain ⟨comparable, width, rows⟩ := all
    exact ⟨_, ⟨comparable, rfl⟩, (same ..).mpr ⟨width.symm, by simp [rows]⟩⟩

/-! ### The split -/

/-- A token list at a length: cut to it, or extended to it by zeros only. -/
def CutOrExtended (maxLen : Nat) (tokens row : List Int) : Prop :=
  -- The right end is cut or extended, never the left one.
  row.length = maxLen ∧ (maxLen ≤ tokens.length ∧ row = tokens.take maxLen ∨
    tokens.length ≤ maxLen ∧ ∃ zeros, row = tokens ++ List.replicate zeros 0)

/-- Padding and truncating does nothing else. -/
theorem padOrTruncate_cutOrExtended (tokens : List Int) (maxLen : Nat) :
    CutOrExtended maxLen tokens (padOrTruncate tokens maxLen) := by
  -- The two branches are the two cases.
  refine ⟨length_padOrTruncate tokens maxLen, ?_⟩
  unfold padOrTruncate
  split
  case isTrue long => exact .inl ⟨long, rfl⟩
  case isFalse short => exact .inr ⟨(not_le.mp short).le, _, rfl⟩

/-- The sessions of comparable events that their timestamps order are the only split of their stable order
at the pauses that are too long, one more than there are such pauses, and every row is one of them at the
common length. -/
theorem buildSessionSequences_split (events : List (ScrubbedEvent F)) (nonempty : events ≠ [])
    (comparable : ComparableTimes events) (transitive : TransitiveTimes events) (maxLen : Int)
    (positive : 0 < maxLen) :
    ∃ ordered groups sessions batch,
      StableOrder earlier events ordered ∧
      SessionSplit events groups ∧ (∀ other, SessionSplit events other → other = groups) ∧
      formSessions events = .ok sessions ∧ sessions = groups.map (groupTokens (buildEventIndex events)) ∧
      sessions.flatten = groupTokens (buildEventIndex events) ordered ∧ [] ∉ sessions ∧
      buildSessionSequences events maxLen = .ok batch ∧
      batch.rows.length = 1 + longPauses ordered ∧
      List.Forall₂ (CutOrExtended maxLen.toNat) sessions batch.rows := by
  -- All of it is said about the sessions of the ordered events.
  obtain ⟨batch, built⟩ : ∃ batch, buildSessionSequences events maxLen = .ok batch := by
    refine ⟨⟨maxLen.toNat, (sessionEvents events).map fun group =>
      padOrTruncate (groupTokens (buildEventIndex events) group) maxLen.toNat, by simp⟩, ?_⟩
    exact (buildSessionSequences_eq_ok nonempty positive _).mpr ⟨comparable, rfl, rfl⟩
  obtain ⟨-, -, rows⟩ := (buildSessionSequences_eq_ok nonempty positive batch).mp built
  have split := (sessionSplit_iff transitive _).mpr rfl
  refine ⟨orderedEvents events, sessionEvents events, _, batch, transitive.orders.stableOrder, split,
    fun other same => (sessionSplit_iff transitive other).mp same,
    formSessions_of_comparable nonempty comparable, rfl, ?_, ?_, built, ?_, ?_⟩
  · have flat := flatten_sessionEvents events
    simp only [groupTokens, ← flat, List.map_flatten]
    rfl
  · intro member
    obtain ⟨group, inside, empty⟩ := List.mem_map.mp member
    exact split.cut.nonempty (List.map_eq_nil_iff.mp empty ▸ inside)
  · rw [rows, List.length_map, length_sessionEvents nonempty]
  · rw [rows, List.forall₂_map_left_iff, List.forall₂_map_right_iff]
    exact List.forall₂_same.mpr fun group _ => padOrTruncate_cutOrExtended _ _

/-- An event of nothing but a type, some seconds after the start of 1970. -/
def makeEvent (seconds : Nat) (eventType : String) : ScrubbedEvent Int :=
  -- Within one day of the epoch.
  let time : DateTime := .utc (719162 * dayMicros + seconds % 86400 * 1000000)
    (by simp only [dayMicros, endOfTime]; omega)
  ⟨1, time, eventType, time.hour, none, none, none, none⟩

/-- Three events of which the last one comes more than half an hour after the second one. -/
def threeEvents : List (ScrubbedEvent Int) :=
  -- The last comes 1840 seconds after the second.
  [makeEvent 0 "auth", makeEvent 60 "auth", makeEvent 1900 "network"]

/-- Three events make two sessions. -/
theorem buildSessionSequences_split_three :
    ∃ ordered groups sessions batch,
      StableOrder earlier threeEvents ordered ∧
      SessionSplit threeEvents groups ∧
      (∀ other, SessionSplit threeEvents other → other = groups) ∧
      formSessions threeEvents = .ok sessions ∧
      sessions = groups.map (groupTokens (buildEventIndex threeEvents)) ∧
      sessions.flatten = groupTokens (buildEventIndex threeEvents) ordered ∧ [] ∉ sessions ∧
      buildSessionSequences threeEvents 5 = .ok batch ∧
      batch.rows.length = 1 + longPauses ordered ∧
      List.Forall₂ (CutOrExtended 5) sessions batch.rows :=
  -- All three timestamps carry an offset.
  buildSessionSequences_split threeEvents (by simp [threeEvents])
    ((comparableTimes_iff _).mpr (by decide)) (by decide) 5 (by decide)

/-- The minutes after the start of a day on which the summer time ends in Berlin. -/
def autumnMinute (minutes : Int) : Int :=
  -- Minutes after midnight UTC of the night the clocks go back.
  739185 * dayMicros + minutes * 60000000

/-- Ten minutes to three in Berlin, when the clock shows it for the first time. -/
def beforeTurn : Event Int :=
  -- 02:50 before the clocks are set back.
  ⟨1, ⟨autumnMinute 170, .zone .berlin false, by decide⟩, .auth, none, none, none, none⟩

/-- Ten minutes past two in Berlin, when the clock shows it for the second time, twenty minutes later. -/
def afterTurn : Event Int :=
  -- 02:10 after the clocks are set back.
  ⟨1, ⟨autumnMinute 130, .zone .berlin true, by decide⟩, .network, none, none, none, none⟩

/-- One o'clock in UTC, ten minutes after the one and ten minutes before the other. -/
def betweenTurns : Event Int :=
  -- Between the two as instants.
  ⟨1, .utc (autumnMinute 60) (by decide), .file, none, none, none, none⟩

/-- The three events, each of which is earlier than the one after the next. -/
def turnEvents : List (ScrubbedEvent Int) :=
  -- All of one user.
  [beforeTurn, afterTurn, betweenTurns].map (scrub constantDigests)

/-- Two events that are twenty minutes apart make two sessions when the clock was turned back in between,
and with a third one, given in UTC, they cannot be sorted at all. -/
theorem buildSessionSequences_split_fails :
    (afterTurn.timestamp.clock - beforeTurn.timestamp.clock = 1200 * 1000000 ∧
      formSessions ([beforeTurn, afterTurn].map (scrub constantDigests)) = .ok [[3], [2]]) ∧
    ComparableTimes turnEvents ∧ ¬ ∃ ordered, StableOrder earlier turnEvents ordered := by
  refine ⟨by decide +kernel, (comparableTimes_iff _).mpr (by decide), ?_⟩
  rintro ⟨ordered, stable⟩
  -- Whichever event comes first, another one is earlier, and that one comes behind it.
  have beaten : ∀ first ∈ turnEvents, ∃ other ∈ turnEvents, earlier other first = true := by decide
  cases ordered with
  | nil => exact absurd stable.perm (List.not_perm_nil_cons _ _)
  | cons first rest =>
    obtain ⟨other, otherIn, less⟩ := beaten first (stable.perm.mem_iff.mp (List.mem_cons_self ..))
    rcases List.mem_cons.mp (stable.perm.mem_iff.mpr otherIn) with rfl | behind
    · simp [earlier] at less
    · rw [(List.pairwise_cons.mp stable.ascends).1 other behind] at less
      cases less

end Absm
