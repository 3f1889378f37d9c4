import Absm.Proofs.Features.Sessions

/-! Sessions do not depend on the order in which events arrive, and are built chunk by chunk. -/

namespace Absm

variable {F : Type}

/-! ### Arrival order -/

/-- The token index depends on which events there are, not on their order. -/
theorem buildEventIndex_perm {events others : List (ScrubbedEvent F)} (perm : events.Perm others) :
    buildEventIndex events = buildEventIndex others := by
  -- The unseen types are put in order before they get their tokens.
  have unseen : (unseenTypes events).Perm (unseenTypes others) :=
    ((perm.map ScrubbedEvent.eventType).filter _).dedup
  have sorted : (unseenTypes events).insertionSort (· ≤ ·) =
      (unseenTypes others).insertionSort (· ≤ ·) := by
    refine List.Perm.eq_of_pairwise (fun _ _ _ _ => le_antisymm)
      (List.pairwise_insertionSort _ _) (List.pairwise_insertionSort _ _) ?_
    exact (List.perm_insertionSort _ _).trans (unseen.trans (List.perm_insertionSort _ _).symm)
  rw [buildEventIndex, buildEventIndex, sorted]

/-- Whether timestamps can be compared does not depend on the order of the events. -/
theorem comparableTimes_perm {events others : List (ScrubbedEvent F)} (perm : events.Perm others) :
    ComparableTimes events ↔ ComparableTimes others := by
  -- Membership is all that is asked.
  simp only [ComparableTimes, perm.mem_iff]

/-- The differences between the timestamps of some events add up. -/
def CoherentTimes (events : List (ScrubbedEvent F)) : Prop :=
  -- As if there were one time line.
  DateTime.Coherent (events.map ScrubbedEvent.timestamp)

/-- Where differences add up, they are those of the times since one of the events. -/
theorem CoherentTimes.pause {events : List (ScrubbedEvent F)} (coherent : CoherentTimes events)
    {base : ScrubbedEvent F} (baseIn : base ∈ events) : ∀ first ∈ events, ∀ second ∈ events,
      first.timestamp.later second.timestamp =
        first.timestamp.later base.timestamp - second.timestamp.later base.timestamp := by
  -- The way over the one event is as long as the direct one.
  intro first firstIn second secondIn
  have member : ∀ event ∈ events, event.timestamp ∈ events.map ScrubbedEvent.timestamp :=
    fun event inside => List.mem_map_of_mem inside
  have sum := coherent _ (member first firstIn) _ (member base baseIn) _ (member second secondIn)
  rw [DateTime.later_swap base.timestamp second.timestamp] at sum
  omega

/-- Where differences add up, the events are compared by the times since one of them. -/
theorem CoherentTimes.comparesBy {events : List (ScrubbedEvent F)} (coherent : CoherentTimes events)
    {base : ScrubbedEvent F} (baseIn : base ∈ events) :
    ComparesBy earlier (fun event => event.timestamp.later base.timestamp) events := by
  -- An event is earlier when the difference is negative.
  intro first firstIn second secondIn
  rw [earlier, decide_eq_true_eq, coherent.pause baseIn first firstIn second secondIn]
  exact sub_neg

/-- Where differences add up, the timestamps order the events. -/
theorem CoherentTimes.transitive {events : List (ScrubbedEvent F)} (coherent : CoherentTimes events) :
    TransitiveTimes events := by
  intro first firstIn second secondIn third thirdIn firstBefore secondBefore
  -- Numbers order them: the times since one of the events.
  have compares := coherent.comparesBy firstIn
  rw [← Bool.not_eq_true, compares second secondIn first firstIn, not_lt] at firstBefore
  rw [← Bool.not_eq_true, compares third thirdIn second secondIn, not_lt] at secondBefore
  rw [← Bool.not_eq_true, compares third thirdIn first firstIn, not_lt]
  exact firstBefore.trans secondBefore

/-- Differences between timestamps add up exactly when all timestamps are of one object or no two of one
object have different offsets. -/
theorem coherentTimes_iff (events : List (ScrubbedEvent F)) :
    CoherentTimes events ↔
      (∀ left ∈ events, ∀ right ∈ events, left.timestamp.tzinfo.same right.timestamp.tzinfo = true) ∨
      ∀ left ∈ events, ∀ right ∈ events, left.timestamp.tzinfo.same right.timestamp.tzinfo = true →
        left.timestamp.offset = right.timestamp.offset := by
  -- The events are looked at for their timestamps only.
  rw [CoherentTimes, DateTime.coherent_iff]
  simp only [List.forall_mem_map]

/-- Differences between timestamps of constant offsets add up. -/
theorem coherentTimes_of_constant {events : List (ScrubbedEvent F)}
    (constant : ∀ event ∈ events, event.timestamp.tzinfo.Constant) : CoherentTimes events :=
  -- Each timestamp is that of an event.
  DateTime.coherent_of_constant (List.forall_mem_map.mpr constant)

/-- The sessions of the same events in another order consist of the same events, where differences add up. -/
theorem sessionEvents_perm {events others : List (ScrubbedEvent F)} (perm : events.Perm others)
    (coherent : CoherentTimes events) :
    List.Forall₂ List.Perm (sessionEvents events) (sessionEvents others) := by
  rcases eq_or_ne events [] with rfl | nonempty
  · rw [List.nil_perm.mp perm]
    exact List.Forall₂.nil
  obtain ⟨base, baseIn⟩ := List.exists_mem_of_ne_nil events nonempty
  have compares := coherent.comparesBy baseIn
  have stable := sorted_stable compares
  have other : StablySorted (fun event => event.timestamp.later base.timestamp) others (orderedEvents others) :=
    sorted_stable fun first firstIn second secondIn =>
      compares first (perm.mem_iff.mpr firstIn) second (perm.mem_iff.mpr secondIn)
  -- A session is cut by the times of its events, and equal ones are never cut apart.
  have cut : ∀ list : List (ScrubbedEvent F), list ⊆ events →
      list.splitBy goesOn = list.splitBy fun before after => decide
        (after.timestamp.later base.timestamp - before.timestamp.later base.timestamp ≤ sessionGap) := by
    intro list inside
    refine splitBy_congr fun first firstIn second secondIn => ?_
    rw [goesOn, Absm.pause, coherent.pause baseIn _ (inside secondIn) _ (inside firstIn)]
  rw [sessionEvents, sessionEvents, cut _ (orderedEvents_perm events).subset,
    cut _ ((orderedEvents_perm others).trans perm.symm).subset]
  exact splitBy_forall₂_perm (fun event : ScrubbedEvent F => event.timestamp.later base.timestamp)
    (fun before after => decide (after - before ≤ sessionGap))
    (fun instant => by simp [sessionGap]) stable.1
    (StablySorted.map_key_eq perm stable other) (stable.perm.trans (perm.trans other.perm.symm))

/-- The tokens of the same events are the same tokens. -/
theorem groupTokens_perm (eventIndex : Dict String Int) {group other : List (ScrubbedEvent F)}
    (perm : group.Perm other) : (groupTokens eventIndex group).Perm (groupTokens eventIndex other) :=
  -- Each event has its token by itself.
  perm.map _

/-- No two of some events have a difference of zero. -/
def DistinctTimes (events : List (ScrubbedEvent F)) : Prop :=
  -- Distinct as instants or as wall clocks, whichever Python compares.
  events.Pairwise fun first second => first.timestamp.later second.timestamp ≠ 0
  deriving Decidable

/-- Events at different times that their timestamps order are sorted in one way, in whatever order they
arrive. -/
theorem orderedEvents_distinct {events others : List (ScrubbedEvent F)} (perm : events.Perm others)
    (transitive : TransitiveTimes events) (distinct : DistinctTimes events) :
    orderedEvents events = orderedEvents others := by
  have compares := transitive.orders.comparesBy
  -- Of two events at different times one is earlier, so that their ranks differ.
  have ranks : (events.map (rankAmong earlier events)).Nodup := by
    refine List.pairwise_map.mpr (distinct.imp_of_mem fun {first second} firstIn secondIn differ same => ?_)
    have forward := compares first firstIn second secondIn
    have back := compares second secondIn first firstIn
    have swap := DateTime.later_swap first.timestamp second.timestamp
    simp only [earlier, decide_eq_true_eq] at forward back
    omega
  refine StablySorted.eq_of_distinct perm (sorted_stable compares) ?_ ranks
  exact sorted_stable fun first firstIn second secondIn =>
    compares first (perm.mem_iff.mpr firstIn) second (perm.mem_iff.mpr secondIn)

/-- The token lists of the sessions of some events. -/
def sessionTokens (events : List (ScrubbedEvent F)) : List (List Int) :=
  -- Tokens before padding.
  (sessionEvents events).map (groupTokens (buildEventIndex events))

/-- The token lists of the sessions of the same events in another order contain the same tokens. -/
theorem sessionTokens_perm {events others : List (ScrubbedEvent F)} (perm : events.Perm others)
    (coherent : CoherentTimes events) :
    List.Forall₂ List.Perm (sessionTokens events) (sessionTokens others) := by
  -- One index serves both lists, and the sessions consist of the same events.
  rw [sessionTokens, sessionTokens, ← buildEventIndex_perm perm]
  refine List.forall₂_map_left_iff.mpr (List.forall₂_map_right_iff.mpr ?_)
  exact (sessionEvents_perm perm coherent).imp fun _ _ same => groupTokens_perm _ same

/-- The rows of some events, which may be none at all. -/
theorem buildSessionSequences_rows (events : List (ScrubbedEvent F)) {maxLen : Int}
    (positive : 0 < maxLen) (comparable : ComparableTimes events) :
    ∃ batch, buildSessionSequences events maxLen = .ok batch ∧ batch.width = maxLen.toNat ∧
      batch.rows = (sessionTokens events).map (padOrTruncate · maxLen.toNat) := by
  -- Without events there are no sessions, and otherwise they are formed.
  by_cases empty : events = []
  · subst empty
    refine ⟨⟨maxLen.toNat, [], by simp⟩, ?_, rfl, rfl⟩
    simp [buildSessionSequences, not_le.mpr positive]
  · refine ⟨⟨maxLen.toNat, (sessionTokens events).map (padOrTruncate · maxLen.toNat), by simp⟩, ?_,
      rfl, rfl⟩
    exact (buildSessionSequences_eq_ok empty positive _).mpr ⟨comparable, rfl, by simp [sessionTokens]⟩

/-- Building sequences raises when the length is not positive, and otherwise when the two kinds of
datetimes meet. -/
theorem buildSessionSequences_raises (events : List (ScrubbedEvent F)) (maxLen : Int) :
    (maxLen ≤ 0 → buildSessionSequences events maxLen =
      .error (.valueError "max_len must be positive")) ∧
    (0 < maxLen → ¬ ComparableTimes events → buildSessionSequences events maxLen =
      .error (.typeError "can't compare offset-naive and offset-aware datetimes")) := by
  -- The length is checked first, and sorting is the next thing that can raise.
  refine ⟨fun negative => by rw [buildSessionSequences, if_pos negative], ?_⟩
  intro positive incomparable
  have nonempty : events ≠ [] := by
    rintro rfl
    simp [ComparableTimes] at incomparable
  have differ := mt (comparableTimes_iff events).mpr incomparable
  simp [buildSessionSequences, not_le.mpr positive, nonempty, formSessions, sortedByTimestamp,
    if_neg differ]

/-- In every order some events make the same calls raise. Where one returns, it returns rows of sessions:
the same number of them, of the same tokens, when the differences between the timestamps add up, and the
same rows when no two timestamps are equal and all can be put in order. -/
theorem buildSessionSequences_perm (events others : List (ScrubbedEvent F))
    (perm : events.Perm others) (maxLen : Int) :
    ((∃ batch, buildSessionSequences events maxLen = .ok batch) ↔
      0 < maxLen ∧ ComparableTimes events) ∧
    (∀ error, buildSessionSequences events maxLen = .error error →
      buildSessionSequences others maxLen = .error error) ∧
    ∀ batch, buildSessionSequences events maxLen = .ok batch →
      ∃ other sessions otherSessions, buildSessionSequences others maxLen = .ok other ∧
        (events ≠ [] → formSessions events = .ok sessions ∧
          formSessions others = .ok otherSessions) ∧
        batch.rows = sessions.map (padOrTruncate · maxLen.toNat) ∧
        other.rows = otherSessions.map (padOrTruncate · maxLen.toNat) ∧
        (CoherentTimes events → batch.rows.length = other.rows.length ∧
          List.Forall₂ List.Perm sessions otherSessions) ∧
        (TransitiveTimes events → DistinctTimes events → other = batch) := by
  obtain ⟨negative, mixed⟩ := buildSessionSequences_raises events maxLen
  obtain ⟨otherNegative, otherMixed⟩ := buildSessionSequences_raises others maxLen
  have same := comparableTimes_perm perm
  -- Length and kinds decide alike for both orders.
  rcases Int.lt_or_le 0 maxLen with positive | nonpositive
  case inr =>
    rw [negative nonpositive, otherNegative nonpositive]
    exact ⟨by simp [not_lt.mpr nonpositive], fun _ => id, by simp⟩
  by_cases comparable : ComparableTimes events
  case neg =>
    rw [mixed positive comparable, otherMixed positive (mt same.mpr comparable)]
    exact ⟨by simp [comparable], fun _ => id, by simp⟩
  obtain ⟨batch, built, width, rows⟩ := buildSessionSequences_rows events positive comparable
  obtain ⟨other, otherBuilt, otherWidth, otherRows⟩ :=
    buildSessionSequences_rows others positive (same.mp comparable)
  rw [built, otherBuilt]
  refine ⟨by simp [positive, comparable], by simp, fun returned first => ?_⟩
  cases first
  refine ⟨other, _, _, rfl, fun nonempty => ⟨formSessions_of_comparable nonempty comparable, ?_⟩,
    rows, otherRows, fun coherent => ?_, fun transitive distinct => ?_⟩
  · refine formSessions_of_comparable (fun empty => nonempty ?_) (same.mp comparable)
    exact List.perm_nil.mp (empty ▸ perm)
  · have tokens := sessionTokens_perm perm coherent
    exact ⟨by rw [rows, otherRows, List.length_map, List.length_map, tokens.length_eq], tokens⟩
  · -- With distinct timestamps there is one order, so the sessions are the same.
    have ordered := orderedEvents_distinct perm transitive distinct
    have equal : sessionTokens events = sessionTokens others := by
      rw [sessionTokens, sessionTokens, sessionEvents, sessionEvents, ordered,
        buildEventIndex_perm perm]
    cases batch
    cases other
    simp only at width otherWidth rows otherRows
    simp [width, otherWidth, rows, otherRows, equal]

/-- Three events in the opposite order. -/
theorem buildSessionSequences_perm_three :
    ((∃ batch, buildSessionSequences threeEvents 5 = .ok batch) ↔
      0 < (5 : Int) ∧ ComparableTimes threeEvents) ∧
    (∀ error, buildSessionSequences threeEvents 5 = .error error →
      buildSessionSequences threeEvents.reverse 5 = .error error) ∧
    ∀ batch, buildSessionSequences threeEvents 5 = .ok batch →
      ∃ other sessions otherSessions, buildSessionSequences threeEvents.reverse 5 = .ok other ∧
        (threeEvents ≠ [] → formSessions threeEvents = .ok sessions ∧
          formSessions threeEvents.reverse = .ok otherSessions) ∧
        batch.rows = sessions.map (padOrTruncate · 5) ∧
        other.rows = otherSessions.map (padOrTruncate · 5) ∧
        (CoherentTimes threeEvents → batch.rows.length = other.rows.length ∧
          List.Forall₂ List.Perm sessions otherSessions) ∧
        (TransitiveTimes threeEvents → DistinctTimes threeEvents → other = batch) :=
  -- The three events and their reversal.
  buildSessionSequences_perm threeEvents threeEvents.reverse (List.reverse_perm _).symm 5

/-- Three events at different times, two of them in one time zone on both sides of a change of the clock,
make two rows or one, depending on the order in which they arrive. -/
theorem buildSessionSequences_perm_fails :
    ComparableTimes turnEvents ∧ DistinctTimes turnEvents ∧
      turnEvents.Perm (turnEvents.rotate 1).reverse ∧
      (buildSessionSequences turnEvents 3).map TokenBatch.rows = .ok [[4, 3, 0], [2, 0, 0]] ∧
      (buildSessionSequences (turnEvents.rotate 1).reverse 3).map TokenBatch.rows = .ok [[2, 4, 3]] :=
  -- Two orders of the same events, on the night the clocks go back.
  ⟨(comparableTimes_iff _).mpr (by decide), by decide,
    ((List.reverse_perm _).trans (List.rotate_perm _ 1)).symm, by decide +kernel, by decide +kernel⟩

/-! ### Chunks -/

/-- Built-in event types alone leave the index as it is. -/
theorem buildEventIndex_builtIn {events : List (ScrubbedEvent F)}
    (builtIn : ∀ event ∈ events, (baseEventIndex.get? event.eventType).isSome) :
    buildEventIndex events = baseEventIndex := by
  -- There is no unseen type to be given a token.
  have unseen : unseenTypes events = [] := by
    have none : ((events.map (·.eventType)).filter fun eventType =>
        (baseEventIndex.get? eventType).isNone) = [] := by
      refine List.filter_eq_nil_iff.mpr fun eventType member => ?_
      obtain ⟨event, inside, rfl⟩ := List.mem_map.mp member
      simpa [Option.isNone_iff_eq_none, Option.isSome_iff_ne_none] using builtIn event inside
    rw [unseenTypes, none, List.dedup_nil]
  rw [buildEventIndex, unseen]
  rfl

/-- The types of normalized events are built in. -/
theorem builtIn_scrub (digests : Digests) (events : List (Event F)) :
    ∀ event ∈ events.map (scrub digests), (baseEventIndex.get? event.eventType).isSome := by
  intro scrubbed member
  obtain ⟨event, -, rfl⟩ := List.mem_map.mp member
  -- Each of the three literals is one of the four built-in types.
  have all : ∀ eventType : EventType, (baseEventIndex.get? eventType.text).isSome := fun eventType =>
    by cases eventType <;> decide
  exact all event.eventType

/-- Each event of one list is more than a session's pause later than each event of another one. -/
def SessionsApart (before after : List (ScrubbedEvent F)) : Prop :=
  -- Measured as the code does, so the elapsed time may be wall clock time.
  ∀ first ∈ before, ∀ second ∈ after, ∃ pause,
    second.timestamp.elapsed first.timestamp = .ok pause ∧ sessionGap < pause

/-- Events that are that far apart are of one kind, and the pause between them is too long. -/
theorem SessionsApart.pauses {before after : List (ScrubbedEvent F)}
    (apart : SessionsApart before after) {first second : ScrubbedEvent F}
    (firstIn : first ∈ before) (secondIn : second ∈ after) :
    second.timestamp.aware = first.timestamp.aware ∧ sessionGap < pause first second := by
  -- A difference is only measured between timestamps of one kind.
  obtain ⟨pause, measured, long⟩ := apart first firstIn second secondIn
  unfold DateTime.elapsed at measured
  split at measured
  case isTrue kind =>
    cases measured
    exact ⟨kind, long⟩
  case isFalse => cases measured

/-- Of two events that are that far apart the one is earlier and the other one is not. -/
theorem SessionsApart.earlier {before after : List (ScrubbedEvent F)} (apart : SessionsApart before after)
    {first second : ScrubbedEvent F} (firstIn : first ∈ before) (secondIn : second ∈ after) :
    Absm.earlier first second = true ∧ Absm.earlier second first = false := by
  -- The pause between them is positive.
  have long := (apart.pauses firstIn secondIn).2
  have swap := DateTime.later_swap first.timestamp second.timestamp
  simp only [pause, sessionGap] at long
  simp only [Absm.earlier, decide_eq_true_eq, decide_eq_false_iff_not]
  omega

/-- Two lists that are far enough apart can be put in order when each of them can. -/
theorem SessionsApart.transitive {before after : List (ScrubbedEvent F)} (apart : SessionsApart before after)
    (front : TransitiveTimes before) (behind : TransitiveTimes after) : TransitiveTimes (before ++ after) := by
  intro first firstIn second secondIn third thirdIn upward onward
  -- No event of the second list comes before one of the first list.
  rcases List.mem_append.mp firstIn with firstIn | firstIn <;>
    rcases List.mem_append.mp secondIn with secondIn | secondIn <;>
    rcases List.mem_append.mp thirdIn with thirdIn | thirdIn
  · exact front first firstIn second secondIn third thirdIn upward onward
  · exact (apart.earlier firstIn thirdIn).2
  · rw [(apart.earlier thirdIn secondIn).1] at onward
    cases onward
  · exact (apart.earlier firstIn thirdIn).2
  · rw [(apart.earlier secondIn firstIn).1] at upward
    cases upward
  · rw [(apart.earlier secondIn firstIn).1] at upward
    cases upward
  · rw [(apart.earlier thirdIn secondIn).1] at onward
    cases onward
  · exact behind first firstIn second secondIn third thirdIn upward onward

/-- The sessions of two lists that are far enough apart are those of the one and then of the other. -/
theorem sessionEvents_append {before after : List (ScrubbedEvent F)}
    (apart : SessionsApart before after) (front : TransitiveTimes before) (behind : TransitiveTimes after) :
    sessionEvents (before ++ after) = sessionEvents before ++ sessionEvents after := by
  -- Each part is sorted by the ranks among all events, and all ranks of the one are below those of the other.
  have compares := (apart.transitive front behind).orders.comparesBy
  have ordered : orderedEvents (before ++ after) = orderedEvents before ++ orderedEvents after := by
    have parts : ∀ list, list ⊆ before ++ after →
        StablySorted (rankAmong Absm.earlier (before ++ after)) list (orderedEvents list) :=
      fun list inside => sorted_stable fun first firstIn second secondIn =>
        compares first (inside firstIn) second (inside secondIn)
    refine (parts _ (List.Subset.refl _)).unique (StablySorted.append
      (parts before (List.subset_append_left _ _)) (parts after (List.subset_append_right _ _))
      fun first firstIn second secondIn => ?_)
    exact ((compares first (List.mem_append_left _ firstIn) second (List.mem_append_right _ secondIn)).mp
      (apart.earlier firstIn secondIn).1).le
  -- The pause between the last event of the one and the first one of the other is too long.
  rw [sessionEvents, ordered, List.splitBy_append, sessionEvents, sessionEvents]
  intro last lastIn first firstIn
  have lastIn := (orderedEvents_perm before).mem_iff.mp (List.mem_of_mem_getLast? lastIn)
  have firstIn := (orderedEvents_perm after).mem_iff.mp (List.mem_of_mem_head? firstIn)
  simpa [goesOn] using (apart.pauses lastIn firstIn).2

/-- Two lists that are far enough apart can be compared when neither is empty. -/
theorem SessionsApart.comparable {before after : List (ScrubbedEvent F)}
    (apart : SessionsApart before after) (before_ne : before ≠ []) (after_ne : after ≠ []) :
    ComparableTimes (before ++ after) := by
  -- All events are of the kind of the first one.
  obtain ⟨earlier, earlierIn⟩ := List.exists_mem_of_ne_nil before before_ne
  obtain ⟨later, laterIn⟩ := List.exists_mem_of_ne_nil after after_ne
  have kind : ∀ event ∈ before ++ after, event.timestamp.aware = earlier.timestamp.aware := by
    intro event member
    rcases List.mem_append.mp member with inBefore | inAfter
    · exact (apart.pauses inBefore laterIn).1.symm.trans (apart.pauses earlierIn laterIn).1
    · exact (apart.pauses earlierIn inAfter).1
  refine (comparableTimes_iff _).mpr fun left leftIn right rightIn => ?_
  rw [kind left leftIn, kind right rightIn]

/-- The events of a part of a list can be compared when those of the whole can. -/
theorem ComparableTimes.subset {events others : List (ScrubbedEvent F)}
    (comparable : ComparableTimes events) (inside : others ⊆ events) : ComparableTimes others :=
  -- Fewer pairs are compared.
  fun left leftIn right rightIn => comparable left (inside leftIn) right (inside rightIn)

/-- The rows of two lists of normalized events that are far enough apart, and that their timestamps order
each, are the rows of the one and then those of the other, and what is raised for them is raised for one of
them. -/
theorem buildSessionSequences_append (digests : Digests) (before after : List (Event F))
    (apart : SessionsApart (before.map (scrub digests)) (after.map (scrub digests)))
    (front : TransitiveTimes (before.map (scrub digests)))
    (behind : TransitiveTimes (after.map (scrub digests))) (maxLen : Int) (positive : 0 < maxLen) :
    (buildSessionSequences ((before ++ after).map (scrub digests)) maxLen).map TokenBatch.rows = (do
      let first ← buildSessionSequences (before.map (scrub digests)) maxLen
      let second ← buildSessionSequences (after.map (scrub digests)) maxLen
      return first.rows ++ second.rows) := by
  have noRows : buildSessionSequences ([] : List (ScrubbedEvent F)) maxLen =
      .ok ⟨maxLen.toNat, [], by simp⟩ := by
    simp [buildSessionSequences, not_le.mpr positive]
  -- A part without events adds no rows, and otherwise the events are comparable.
  rcases eq_or_ne before [] with rfl | before_ne
  · rw [List.nil_append, List.map_nil, noRows]
    cases buildSessionSequences (after.map (scrub digests)) maxLen <;> rfl
  rcases eq_or_ne after [] with rfl | after_ne
  · rw [List.append_nil, List.map_nil, noRows]
    cases buildSessionSequences (before.map (scrub digests)) maxLen with
    | error error => rfl
    | ok batch => simp [Except.map]
  have whole := apart.comparable (mt List.map_eq_nil_iff.mp before_ne)
    (mt List.map_eq_nil_iff.mp after_ne)
  have append : (before ++ after).map (scrub digests) =
      before.map (scrub digests) ++ after.map (scrub digests) := List.map_append
  obtain ⟨batch, built, -, rows⟩ := buildSessionSequences_rows _ positive whole
  obtain ⟨first, firstBuilt, -, firstRows⟩ := buildSessionSequences_rows _ positive
    (whole.subset (List.subset_append_left _ _))
  obtain ⟨second, secondBuilt, -, secondRows⟩ := buildSessionSequences_rows _ positive
    (whole.subset (List.subset_append_right _ _))
  -- One index, the built-in one, serves both parts and the whole.
  have tokens : sessionTokens (before.map (scrub digests) ++ after.map (scrub digests)) =
      sessionTokens (before.map (scrub digests)) ++ sessionTokens (after.map (scrub digests)) := by
    have wholeIndex := buildEventIndex_builtIn (append ▸ builtIn_scrub digests (before ++ after))
    simp only [sessionTokens, sessionEvents_append apart front behind, List.map_append, wholeIndex,
      buildEventIndex_builtIn (builtIn_scrub digests before),
      buildEventIndex_builtIn (builtIn_scrub digests after)]
  rw [append, built, firstBuilt, secondBuilt]
  simp only [Except.map, ok_bind, pure_eq_ok, rows, firstRows, secondRows, tokens, List.map_append]

/-- Two events half an hour and a second apart, each in a list of its own. -/
def twoChunks : List (Event Int) × List (Event Int) :=
  -- The pause is one second longer than the gap.
  ([⟨1, .epoch, .auth, none, none, none, none⟩],
    [⟨1, .utc (719162 * dayMicros + 1801 * 1000000) (by decide), .file, none, none, none, none⟩])

/-- The rows of two events half an hour and a second apart are the rows of each of them. -/
theorem buildSessionSequences_append_two :
    (buildSessionSequences ((twoChunks.1 ++ twoChunks.2).map (scrub constantDigests)) 3).map
      TokenBatch.rows = (do
        let first ← buildSessionSequences (twoChunks.1.map (scrub constantDigests)) 3
        let second ← buildSessionSequences (twoChunks.2.map (scrub constantDigests)) 3
        return first.rows ++ second.rows) :=
  -- One event in each chunk.
  buildSessionSequences_append constantDigests twoChunks.1 twoChunks.2 (by
    intro first firstIn second secondIn
    obtain rfl := List.mem_singleton.mp firstIn
    obtain rfl := List.mem_singleton.mp secondIn
    exact ⟨_, rfl, by decide⟩) (by decide) (by decide) 3 (by decide)

/-- Three events of the day before the clock was turned back. -/
def eveEvents : List (Event Int) :=
  -- Three events in UTC on the day before.
  [⟨1, .utc (autumnMinute (-1440)) (by decide), .auth, none, none, none, none⟩,
    ⟨1, .utc (autumnMinute (-1439)) (by decide), .auth, none, none, none, none⟩,
    ⟨1, .utc (autumnMinute (-1438)) (by decide), .auth, none, none, none, none⟩]

/-- Behind events of the day before, events around the turn of the clock make other rows than alone. -/
theorem buildSessionSequences_append_fails :
    SessionsApart (eveEvents.map (scrub constantDigests)) turnEvents ∧
      (buildSessionSequences ((eveEvents ++ [beforeTurn, afterTurn, betweenTurns]).map
        (scrub constantDigests)) 3).map TokenBatch.rows = .ok [[2, 2, 2], [3, 0, 0], [2, 4, 0]] ∧
      (buildSessionSequences (eveEvents.map (scrub constantDigests)) 3).map TokenBatch.rows =
        .ok [[2, 2, 2]] ∧
      (buildSessionSequences turnEvents 3).map TokenBatch.rows = .ok [[4, 3, 0], [2, 0, 0]] := by
  refine ⟨?_, by decide +kernel, by decide +kernel, by decide +kernel⟩
  -- All timestamps carry an offset, and the difference is most of a day.
  intro first firstIn second secondIn
  have measured : ∀ first ∈ eveEvents.map (scrub constantDigests), ∀ second ∈ turnEvents,
      second.timestamp.aware = first.timestamp.aware ∧
        sessionGap < second.timestamp.later first.timestamp := by decide
  obtain ⟨kind, long⟩ := measured first firstIn second secondIn
  exact ⟨_, if_pos kind, long⟩

end Absm
