import Absm.Foundation.Rank
import Absm.Proofs.Features.Sessions

/-! Which tokens event types get, and what can be read back from a row of tokens. -/

namespace Absm

variable {F : Type}

/-! ### The index -/

/-- The set of the event types that are not built in. -/
def unseenSet (events : List (ScrubbedEvent F)) : Finset String :=
  -- As a set, for the rank is counted in it.
  (unseenTypes events).toFinset

/-- An unseen event type is the type of an event and is not built in. -/
theorem mem_unseenSet {events : List (ScrubbedEvent F)} {eventType : String} :
    eventType ∈ unseenSet events ↔
      (∃ event ∈ events, event.eventType = eventType) ∧ baseEventIndex.get? eventType = none := by
  -- Deduplication and order do not matter for membership.
  simp [unseenSet, unseenTypes]

/-- New event types in strict order get tokens by their position, and others keep theirs. -/
theorem extendIndex_get? (index : Dict String Int) (nextIndex : Int) {unseen : List String}
    (sorted : unseen.Pairwise (· < ·)) (eventType : String) :
    (extendIndex index nextIndex unseen).get? eventType =
      if eventType ∈ unseen then some (nextIndex + unseen.countP (· < eventType))
      else index.get? eventType := by
  -- The first type is the smallest one, so it precedes each later type.
  induction unseen generalizing index nextIndex with
  | nil => rfl
  | cons first unseen ih =>
    obtain ⟨least, sorted⟩ := List.pairwise_cons.mp sorted
    rw [extendIndex, ih _ _ sorted]
    by_cases later : eventType ∈ unseen
    · have before := least eventType later
      simp only [later, List.mem_cons, or_true, if_true, List.countP_cons, before, decide_true]
      congr 1
      push_cast
      omega
    · rw [if_neg later]
      by_cases same : eventType = first
      · subst same
        have smallest : (eventType :: unseen).countP (· < eventType) = 0 := by
          rw [List.countP_eq_zero]
          intro other member below
          have below := of_decide_eq_true below
          rcases List.mem_cons.mp member with rfl | inside
          · exact lt_irrefl _ below
          · exact lt_asymm below (least other inside)
        rw [smallest, Dict.get?_set_self, if_pos (List.mem_cons_self ..), Nat.cast_zero, add_zero]
      · rw [Dict.get?_set_of_ne _ same]
        simp [later, same]

/-- The built-in types have the tokens from one to four. -/
theorem baseEventIndex_range {eventType : String} {token : Int}
    (found : baseEventIndex.get? eventType = some token) : 1 ≤ token ∧ token ≤ 4 := by
  -- There are four entries.
  have all : ∀ entry ∈ baseEventIndex.entries, 1 ≤ entry.2 ∧ entry.2 ≤ 4 := by decide
  exact all _ (Dict.mem_entries_iff.mpr found)

/-- Built-in types of one token are equal. -/
theorem baseEventIndex_inj {first second : String} {token : Int}
    (left : baseEventIndex.get? first = some token)
    (right : baseEventIndex.get? second = some token) : first = second := by
  -- The tokens of the four entries are distinct.
  have all : ∀ entry ∈ baseEventIndex.entries, ∀ other ∈ baseEventIndex.entries,
      entry.2 = other.2 → entry.1 = other.1 := by decide
  exact all _ (Dict.mem_entries_iff.mpr left) _ (Dict.mem_entries_iff.mpr right) rfl

/-- Unseen types get the tokens from five on by their position, other types have those built in. -/
theorem buildEventIndex_get? (events : List (ScrubbedEvent F)) (eventType : String) :
    (buildEventIndex events).get? eventType =
      if eventType ∈ unseenSet events then some (5 + (rank (unseenSet events) eventType : Int))
      else baseEventIndex.get? eventType := by
  have next : (baseEventIndex.entries.map Prod.snd).max?.getD 0 + 1 = 5 := by decide
  have distinct : (unseenTypes events).Nodup := List.nodup_dedup _
  have perm := List.perm_insertionSort (· ≤ ·) (unseenTypes events)
  -- Sorting a list without duplicates leaves no equal neighbours.
  have sorted : ((unseenTypes events).insertionSort (· ≤ ·)).Pairwise (· < ·) :=
    (List.pairwise_insertionSort (· ≤ ·) (unseenTypes events)).imp₂
      (fun _ _ atMost differs => lt_of_le_of_ne atMost differs) (perm.nodup_iff.mpr distinct)
  rw [buildEventIndex, next, extendIndex_get? _ _ sorted, perm.countP_eq, countP_eq_rank distinct,
    unseenSet]
  simp

/-- The token of an unseen type. -/
theorem tokenOf_unseen {events : List (ScrubbedEvent F)} {eventType : String}
    (unseen : eventType ∈ unseenSet events) :
    tokenOf (buildEventIndex events) eventType = 5 + (rank (unseenSet events) eventType : Int) := by
  -- The type is in the index.
  simp [tokenOf, Dict.getD, buildEventIndex_get?, unseen]

/-- The type of every event is in the index. -/
theorem buildEventIndex_found {events : List (ScrubbedEvent F)} {event : ScrubbedEvent F}
    (member : event ∈ events) :
    (buildEventIndex events).get? event.eventType =
      some (tokenOf (buildEventIndex events) event.eventType) := by
  -- A type that is not built in is an unseen one.
  have there : ∃ token, (buildEventIndex events).get? event.eventType = some token := by
    rw [buildEventIndex_get?]
    cases builtIn : baseEventIndex.get? event.eventType with
    | some token => split <;> exact ⟨_, rfl⟩
    | none => exact ⟨_, if_pos (mem_unseenSet.mpr ⟨⟨event, member, rfl⟩, builtIn⟩)⟩
  obtain ⟨token, found⟩ := there
  rw [tokenOf, Dict.getD, found, Option.getD_some]

/-- A token is one of the built-in ones, or it is the one of an unseen type. -/
theorem buildEventIndex_cases {events : List (ScrubbedEvent F)} {eventType : String} {token : Int}
    (found : (buildEventIndex events).get? eventType = some token) :
    (baseEventIndex.get? eventType = some token ∧ 1 ≤ token ∧ token ≤ 4) ∨
      (eventType ∈ unseenSet events ∧ token = 5 + (rank (unseenSet events) eventType : Int)) := by
  -- A type has its number from the table or by its rank.
  rw [buildEventIndex_get?] at found
  split at found
  case isTrue unseen => exact .inr ⟨unseen, (Option.some.inj found).symm⟩
  case isFalse => exact .inl ⟨found, baseEventIndex_range found⟩

/-- No event type has the token that fills sequences up. -/
theorem buildEventIndex_pos {events : List (ScrubbedEvent F)} {eventType : String} {token : Int}
    (found : (buildEventIndex events).get? eventType = some token) : 0 < token := by
  -- The table starts at one, and the others come after it.
  rcases buildEventIndex_cases found with ⟨_, range⟩ | ⟨_, number⟩ <;> omega

/-- Different event types have different tokens. -/
theorem buildEventIndex_inj {events : List (ScrubbedEvent F)} {first second : String} {token : Int}
    (left : (buildEventIndex events).get? first = some token)
    (right : (buildEventIndex events).get? second = some token) : first = second := by
  -- Built-in tokens are below five, and the others are told apart by their positions.
  rcases buildEventIndex_cases left with ⟨builtIn, range⟩ | ⟨unseen, number⟩
  · rcases buildEventIndex_cases right with ⟨other, _⟩ | ⟨_, number⟩
    · exact baseEventIndex_inj builtIn other
    · omega
  · rcases buildEventIndex_cases right with ⟨_, range⟩ | ⟨other, same⟩
    · omega
    · exact rank_inj unseen other (by omega)

/-! ### Two batches -/

/-- The tokens of two batches agree: an event type of both has one token in both, and two event types,
one from each batch, have different tokens. -/
def TokensAgree (first second : List (ScrubbedEvent F)) : Prop :=
  -- Equal types get equal tokens, different types different ones.
  ∀ left ∈ first, ∀ right ∈ second,
    (left.eventType = right.eventType → tokenOf (buildEventIndex first) left.eventType =
      tokenOf (buildEventIndex second) right.eventType) ∧
    (left.eventType ≠ right.eventType → tokenOf (buildEventIndex first) left.eventType ≠
      tokenOf (buildEventIndex second) right.eventType)

/-- Two batches agree on a built-in event type, and tell it apart from all others. -/
private theorem tokenOf_builtIn {first second : List (ScrubbedEvent F)}
    {left right : ScrubbedEvent F} (leftIn : left ∈ first) (rightIn : right ∈ second)
    (builtIn : left.eventType ∉ unseenSet first) :
    tokenOf (buildEventIndex first) left.eventType =
      tokenOf (buildEventIndex second) right.eventType ↔ left.eventType = right.eventType := by
  have leftFound := buildEventIndex_found leftIn
  have rightFound := buildEventIndex_found rightIn
  have known : baseEventIndex.get? left.eventType =
      some (tokenOf (buildEventIndex first) left.eventType) := by
    rwa [buildEventIndex_get?, if_neg builtIn] at leftFound
  constructor
  · -- A token below five is a built-in one in the other batch, too.
    intro same
    have range := baseEventIndex_range known
    rcases buildEventIndex_cases rightFound with ⟨other, _⟩ | ⟨_, number⟩
    · exact baseEventIndex_inj known (same ▸ other)
    · omega
  · intro same
    have stays : left.eventType ∉ unseenSet second := fun unseen => by
      rw [(mem_unseenSet.mp unseen).2] at known
      cases known
    rw [← same, buildEventIndex_get?, if_neg stays, known] at rightFound
    rw [← same]
    exact Option.some.inj rightFound

/-- The tokens of two batches agree exactly when the event types that are not built in of one batch are
part of those of the other, and all others of the latter come after them. -/
theorem tokensAgree_iff (first second : List (ScrubbedEvent F)) :
    TokensAgree first second ↔ InitialPart (unseenSet first) (unseenSet second) ∨
      InitialPart (unseenSet second) (unseenSet first) := by
  rw [← rankAgree_iff]
  constructor
  · -- Unseen types are types of events, and their tokens are five more than their positions.
    intro agree x xUnseen y yUnseen
    obtain ⟨left, leftIn, rfl⟩ := (mem_unseenSet.mp xUnseen).1
    obtain ⟨right, rightIn, rfl⟩ := (mem_unseenSet.mp yUnseen).1
    have both := agree left leftIn right rightIn
    rw [tokenOf_unseen xUnseen, tokenOf_unseen yUnseen] at both
    constructor
    · intro same
      by_contra differ
      exact both.2 differ (by rw [same])
    · intro same
      have tokens := both.1 same
      omega
  · intro agree left leftIn right rightIn
    have pair : tokenOf (buildEventIndex first) left.eventType =
        tokenOf (buildEventIndex second) right.eventType ↔ left.eventType = right.eventType := by
      by_cases leftUnseen : left.eventType ∈ unseenSet first
      · by_cases rightUnseen : right.eventType ∈ unseenSet second
        · rw [tokenOf_unseen leftUnseen, tokenOf_unseen rightUnseen,
            ← agree _ leftUnseen _ rightUnseen]
          omega
        · rw [eq_comm, tokenOf_builtIn rightIn leftIn rightUnseen, eq_comm]
      · exact tokenOf_builtIn leftIn rightIn leftUnseen
    exact ⟨pair.mpr, fun differ same => differ (pair.mp same)⟩

/-- Two event types that are not built in share a token when each is the only one of its batch. -/
theorem tokensAgree_fails :
    tokenOf (buildEventIndex [makeEvent 0 "dns"]) "dns" = 5 ∧
      tokenOf (buildEventIndex [makeEvent 0 "vpn"]) "vpn" = 5 ∧
      ¬ TokensAgree [makeEvent 0 "dns"] [makeEvent 0 "vpn"] := by
  -- One unseen type alone is always the fifth.
  have first : tokenOf (buildEventIndex [makeEvent 0 "dns"]) "dns" = 5 := by decide +kernel
  have second : tokenOf (buildEventIndex [makeEvent 0 "vpn"]) "vpn" = 5 := by decide +kernel
  refine ⟨first, second, fun agree => ?_⟩
  have differ := (agree (makeEvent 0 "dns") (by simp) (makeEvent 0 "vpn") (by simp)).2
  exact differ (by decide) (first.trans second.symm)

/-! ### Reading a row back -/

/-- The event type that has a token, if any. -/
def decodeToken (eventIndex : Dict String Int) (token : Int) : Option String :=
  -- The first entry with the number; the index never gives a number twice.
  (eventIndex.entries.find? (·.2 = token)).map Prod.fst

/-- The event type of a token is found again. -/
theorem decodeToken_token {events : List (ScrubbedEvent F)} {eventType : String} {token : Int}
    (found : (buildEventIndex events).get? eventType = some token) :
    decodeToken (buildEventIndex events) token = some eventType := by
  -- The first entry with the token is the only one.
  have there := Dict.mem_entries_iff.mpr found
  obtain ⟨entry, first⟩ : ∃ entry,
      (buildEventIndex events).entries.find? (·.2 = token) = some entry := by
    rw [← Option.isSome_iff_exists, List.find?_isSome]
    exact ⟨_, there, by simp⟩
  have same : entry.2 = token := by simpa using List.find?_some first
  have other := Dict.mem_entries_iff.mp (List.mem_of_find?_eq_some first)
  rw [same] at other
  rw [decodeToken, first, Option.map_some, buildEventIndex_inj other found]

/-- Every event of a session is one of the events. -/
theorem mem_of_sessionCut {events ordered : List (ScrubbedEvent F)}
    {groups : List (List (ScrubbedEvent F))} (sorted : sortedByTimestamp events = .ok ordered)
    (cut : SessionCut ordered groups) {group : List (ScrubbedEvent F)} (member : group ∈ groups)
    {event : ScrubbedEvent F} (inside : event ∈ group) : event ∈ events := by
  -- The sorted events are the events.
  obtain ⟨-, rfl⟩ := (sortedByTimestamp_eq_ok events ordered).mp sorted
  exact (orderedEvents_perm events).mem_iff.mp
    (cut.whole ▸ List.mem_flatten.mpr ⟨group, member, inside⟩)

/-- Within a call the tokens of different event types differ and none is the pad, so that each row ends
in its zeros and otherwise gives back the types of the first events of its session, which is a piece of the
sorted events. -/
theorem rows_decodable (events : List (ScrubbedEvent F)) (nonempty : events ≠ []) (maxLen : Int)
    (positive : 0 < maxLen) (batch : TokenBatch)
    (built : buildSessionSequences events maxLen = .ok batch) :
    (∀ first second token, (buildEventIndex events).get? first = some token →
      (buildEventIndex events).get? second = some token → first = second) ∧
    (∀ event ∈ events, ∃ token, (buildEventIndex events).get? event.eventType = some token) ∧
    (∀ eventType token, (buildEventIndex events).get? eventType = some token → token ≠ padIndex) ∧
    ∃ ordered groups, sortedByTimestamp events = .ok ordered ∧ SessionCut ordered groups ∧
      (TransitiveTimes events → SessionSplit events groups) ∧
      List.Forall₂ (fun group row =>
        (row.filter (· ≠ 0)).map (decodeToken (buildEventIndex events)) =
          (group.take (min group.length maxLen.toNat)).map (fun event => some event.eventType) ∧
        ∃ zeros, row = row.filter (· ≠ 0) ++ List.replicate zeros 0) groups batch.rows := by
  obtain ⟨comparable, -, rows⟩ := (buildSessionSequences_eq_ok nonempty positive batch).mp built
  have sorted := (sortedByTimestamp_eq_ok events _).mpr ⟨comparable, rfl⟩
  have cut := (sessionCut_iff (orderedEvents events) (sessionEvents events)).mpr rfl
  refine ⟨fun _ _ _ => buildEventIndex_inj, fun event member => ⟨_, buildEventIndex_found member⟩,
    fun eventType token found => (buildEventIndex_pos found).ne', _, _, sorted, cut,
    fun transitive => (sessionSplit_iff transitive _).mpr rfl, ?_⟩
  rw [rows, List.forall₂_map_right_iff]
  refine List.forall₂_same.mpr fun group member => ?_
  have found : ∀ event ∈ group.take maxLen.toNat, (buildEventIndex events).get? event.eventType =
      some (tokenOf (buildEventIndex events) event.eventType) := fun event inside =>
    buildEventIndex_found (mem_of_sessionCut sorted cut member (List.mem_of_mem_take inside))
  -- Dropping the zeros leaves the tokens of the first events.
  have kept : (padOrTruncate (groupTokens (buildEventIndex events) group) maxLen.toNat).filter
      (· ≠ 0) = groupTokens (buildEventIndex events) (group.take maxLen.toNat) := by
    have tokens : (groupTokens (buildEventIndex events) (group.take maxLen.toNat)).filter
        (· ≠ 0) = groupTokens (buildEventIndex events) (group.take maxLen.toNat) := by
      rw [List.filter_eq_self]
      intro token inside
      obtain ⟨event, there, rfl⟩ := List.mem_map.mp inside
      simpa using (buildEventIndex_pos (found event there)).ne'
    rw [padOrTruncate_eq, List.filter_append, List.filter_replicate_of_neg (by simp [padIndex]),
      List.append_nil, groupTokens, ← List.map_take]
    exact tokens
  refine ⟨?_, maxLen.toNat - group.length, ?_⟩
  · have taken : group.take (min group.length maxLen.toNat) = group.take maxLen.toNat := by
      rw [List.take_eq_take_iff]
      omega
    rw [kept, taken, groupTokens, List.map_map]
    exact List.map_congr_left fun event inside => decodeToken_token (found event inside)
  · rw [kept, padOrTruncate_eq, groupTokens, groupTokens, List.map_take, List.length_map, padIndex]

/-- The sessions of three events, at five tokens each. -/
def threeEventsBatch : TokenBatch :=
  -- Two sessions, one of two logins and one of a connection.
  ⟨5, [[2, 2, 0, 0, 0], [3, 0, 0, 0, 0]], by decide⟩

/-- This is what is built of them. -/
theorem threeEvents_built : buildSessionSequences threeEvents 5 = .ok threeEventsBatch :=
  -- The pause before the last event is longer than the gap.
  (buildSessionSequences_eq_ok (by simp [threeEvents]) (by decide) _).mpr
    ⟨(comparableTimes_iff _).mpr (by decide), rfl, by decide +kernel⟩

/-- The rows of three events give back their types. -/
theorem rows_decodable_three :
    (∀ first second token, (buildEventIndex threeEvents).get? first = some token →
      (buildEventIndex threeEvents).get? second = some token → first = second) ∧
    (∀ event ∈ threeEvents, ∃ token, (buildEventIndex threeEvents).get? event.eventType = some token) ∧
    (∀ eventType token, (buildEventIndex threeEvents).get? eventType = some token →
      token ≠ padIndex) ∧
    ∃ ordered groups, sortedByTimestamp threeEvents = .ok ordered ∧ SessionCut ordered groups ∧
      (TransitiveTimes threeEvents → SessionSplit threeEvents groups) ∧
      List.Forall₂ (fun group row =>
        (row.filter (· ≠ 0)).map (decodeToken (buildEventIndex threeEvents)) =
          (group.take (min group.length 5)).map (fun event => some event.eventType) ∧
        ∃ zeros, row = row.filter (· ≠ 0) ++ List.replicate zeros 0) groups threeEventsBatch.rows :=
  -- Sessions shorter than the row, so nothing is cut off.
  rows_decodable threeEvents (by simp [threeEvents]) 5 (by decide) threeEventsBatch
    threeEvents_built

end Absm
