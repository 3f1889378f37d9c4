import Mathlib.Data.Set.Card
import Absm.Proofs.Ingest.AtLeastOnce

/-! How often messages are handled again after crashes: once for each stop of the consumer at most. -/

namespace Absm

variable {F P : Type} [JsonFloat F]

/-! ### What is accounted for -/

/-- The messages that have been handled and lie below the committed offset of their partition. -/
def World.closed (world : World P F) : Set (P × Message) :=
  -- Nothing of these is delivered again.
  {entry | entry.2.offset < world.resume entry.1 ∧
    ∃ event, (entry.1, entry.2, event) ∈ world.processed}

/-- The messages that carry an event and were polled at least once. -/
def World.validPolled (runtime : Runtime F) (world : World P F) : Set (P × Message) :=
  -- As a set, since only their number counts.
  {entry | entry ∈ world.polled ∧ (eventOf runtime entry.2).isSome}

/-- The message that the loop works on, from its delivery until the next call of `poll`. -/
def Phase.worksOn : Phase P F → Option (P × Message)
  -- Here the message being committed is included.
  | .polling => none
  | .deserializing p message => some (p, message)
  | .normalizing p message _ => some (p, message)
  | .processing p message _ => some (p, message)
  | .committing p message _ => some (p, message)

/-- How many calls have returned whose commit is still to come. -/
def Phase.inFlight : Phase P F → Nat
  -- Only between processing and committing.
  | .committing _ _ _ => 1
  | _ => 0

/-- How many calls of the running consumer have returned whose commit is still to come. -/
def World.inFlight (world : World P F) : Nat :=
  -- Without a consumer nothing is in flight.
  match world.consumer with
  | some consumer => consumer.phase.inFlight
  | none => 0

/-- The invariant that pays for every call that returned. -/
structure Accounted (runtime : Runtime F) (world : World P F) : Prop where
  /-- Each call is the only one of a closed message, was lost by a stop, or is to be committed. -/
  bounded : world.processed.length ≤ world.closed.ncard + world.stops + world.inFlight
  /-- Only messages that were polled and carry an event are handled. -/
  delivered : ∀ p message event, (p, message, event) ∈ world.processed →
    (p, message) ∈ world.polled ∧ eventOf runtime message = some event
  /-- The message that the loop works on was polled and is not yet acknowledged. -/
  unacked : ∀ consumer, world.consumer = some consumer → ∀ p message,
    consumer.phase.worksOn = some (p, message) →
    (p, message) ∈ world.polled ∧ world.resume p ≤ message.offset

variable {runtime : Runtime F} {log : TopicLog P} {world : World P F}

omit [JsonFloat F] in
/-- More handled messages and higher committed offsets close more messages. -/
theorem World.closed_mono {next : World P F} (further : ∀ p, world.resume p ≤ next.resume p)
    (more : ∀ call ∈ world.processed, call ∈ next.processed) : world.closed ⊆ next.closed := by
  -- A message stays handled, and its offset stays below the committed one.
  intro item inside
  obtain ⟨p, message⟩ := item
  obtain ⟨below, event, handled⟩ := inside
  exact ⟨lt_of_lt_of_le below (further p), event, more _ handled⟩

/-- Closed messages are among those that carry an event and were polled. -/
theorem Accounted.closed_subset (accounted : Accounted runtime world) :
    world.closed ⊆ world.validPolled runtime := by
  -- A message is closed only after it has been handled.
  intro item inside
  obtain ⟨p, message⟩ := item
  obtain ⟨_, event, handled⟩ := inside
  obtain ⟨polled, carries⟩ := accounted.delivered p message event handled
  exact ⟨polled, by simp [carries]⟩

omit [JsonFloat F] in
/-- Only finitely many messages are closed, since only polled ones are handled. -/
theorem World.closed_finite (delivered : ∀ p message event, (p, message, event) ∈ world.processed →
    (p, message) ∈ world.polled) : world.closed.Finite := by
  -- A closed message is one of the list of polled ones.
  refine world.polled.finite_toSet.subset ?_
  intro item closed
  obtain ⟨p, message⟩ := item
  obtain ⟨_, event, handled⟩ := closed
  exact delivered p message event handled

/-- Only finitely many messages were polled. -/
theorem World.validPolled_finite (runtime : Runtime F) (world : World P F) :
    (world.validPolled runtime).Finite :=
  -- A part of a finite list of messages.
  world.polled.finite_toSet.subset fun _ member => member.1

/-! ### What a step preserves -/

/-- Before the first start no call has returned. -/
theorem accounted_initial : Accounted runtime (World.initial P F) where
  -- All counts are zero.
  bounded := by simp [World.initial, World.restored]
  delivered := by
    intro p message event handled
    cases handled
  unacked := by
    intro consumer runs
    cases runs

/-- Moving on without handling, acknowledging or polling anything keeps the accounts. -/
theorem Accounted.goto (accounted : Accounted runtime world) {position : P → Nat}
    {phase : Phase P F} (idle : world.inFlight ≤ phase.inFlight)
    (unacked : ∀ p message, phase.worksOn = some (p, message) →
      (p, message) ∈ world.polled ∧ world.resume p ≤ message.offset) :
    Accounted runtime (world.goto position phase) where
  -- Neither the closed messages nor the stops change.
  bounded := le_trans accounted.bounded (Nat.add_le_add_left idle _)
  delivered := accounted.delivered
  unacked := by
    rintro _ ⟨⟩
    exact unacked

/-- Moving on with the message that the loop works on keeps the accounts. -/
theorem Accounted.advance (accounted : Accounted runtime world) {position : P → Nat}
    {phase next : Phase P F} (runs : world.consumer = some ⟨position, phase⟩)
    (idle : phase.inFlight ≤ next.inFlight)
    (same : ∀ p message, next.worksOn = some (p, message) → phase.worksOn = some (p, message)) :
    Accounted runtime (world.goto position next) := by
  -- The message was polled when the loop took it, and has not been acknowledged since.
  refine accounted.goto ?_ fun p message works =>
    accounted.unacked _ runs p message (same p message works)
  rwa [World.inFlight, runs]

/-- A stop pays for the one call that it may have lost. -/
theorem Accounted.stop (accounted : Accounted runtime world) : Accounted runtime world.stop where
  -- At most one call is waiting for its commit.
  bounded := by
    have waiting : world.inFlight ≤ 1 := by
      rw [World.inFlight]
      split
      case h_1 consumer _ => cases consumer.phase <;> simp [Phase.inFlight]
      case h_2 => exact Nat.zero_le _
    have before := accounted.bounded
    show world.processed.length ≤ world.closed.ncard + (world.stops + 1) + 0
    omega
  delivered := accounted.delivered
  unacked := by
    intro consumer runs
    cases runs

/-- A call that returns is the one whose commit is still to come. -/
theorem Accounted.processReturns (accounted : Accounted runtime world) (safe : Safe runtime log world)
    {position : P → Nat} {p : P} {message : Message} {event : Event F}
    (runs : world.consumer = some ⟨position, .processing p message event⟩) :
    Accounted runtime
      { world.goto position (.committing p message event) with
        processed := world.processed ++ [(p, message, event)] } := by
  -- One more call has returned, and it is in flight.
  have known : position p = message.offset + 1 ∧ eventOf runtime message = some event :=
    safe.knows _ runs
  obtain ⟨polled, unacked⟩ := accounted.unacked _ runs p message rfl
  have delivered : ∀ other found carried,
      (other, found, carried) ∈ world.processed ++ [(p, message, event)] →
      (other, found) ∈ world.polled ∧ eventOf runtime found = some carried := by
    intro other found carried member
    rcases List.mem_append.mp member with before | last
    · exact accounted.delivered other found carried before
    · cases List.mem_singleton.mp last
      exact ⟨polled, known.2⟩
  have closes : world.closed ⊆ World.closed
      { world.goto position (.committing p message event) with
        processed := world.processed ++ [(p, message, event)] } :=
    World.closed_mono (fun _ => le_rfl) fun _ member => List.mem_append_left _ member
  have finite : (World.closed { world.goto position (.committing p message event) with
      processed := world.processed ++ [(p, message, event)] }).Finite :=
    World.closed_finite fun other found carried handled => (delivered other found carried handled).1
  refine ⟨?_, delivered, ?_⟩
  · have before := accounted.bounded
    have more := Set.ncard_le_ncard closes finite
    have idle : world.inFlight = 0 := by rw [World.inFlight, runs]; rfl
    show (world.processed ++ [(p, message, event)]).length ≤ _ + world.stops + 1
    rw [List.length_append, List.length_singleton]
    omega
  · rintro _ ⟨⟩ other found works
    obtain ⟨rfl, rfl⟩ := Prod.mk.inj (Option.some.inj works)
    exact ⟨polled, unacked⟩

variable [DecidableEq P]

omit [JsonFloat F] in
/-- An acknowledgement takes no committed offset back when the message is not yet acknowledged. -/
theorem World.resume_le_acknowledge {p : P} {message : Message}
    (unacked : world.resume p ≤ message.offset) (other : P) :
    world.resume other ≤ (world.acknowledge p message).resume other := by
  -- Only one partition is written, and forwards.
  rw [World.resume_acknowledge]
  split
  case isTrue same =>
    subst same
    omega
  case isFalse => exact le_rfl

/-- An acknowledgement closes one more message. -/
theorem Accounted.closed_acknowledge (accounted : Accounted runtime world)
    (safe : Safe runtime log world) {position : P → Nat} {p : P} {message : Message} {event : Event F}
    (runs : world.consumer = some ⟨position, .committing p message event⟩) :
    world.closed.ncard + 1 ≤ (world.acknowledge p message).closed.ncard := by
  -- The message was not closed before, since it was not below the committed offset.
  have known : position p = message.offset + 1 ∧ eventOf runtime message = some event ∧
    (p, message, event) ∈ world.processed := safe.knows _ runs
  have unacked := (accounted.unacked _ runs p message rfl).2
  have fresh : (p, message) ∉ world.closed := fun closed => absurd closed.1 (not_lt.mpr unacked)
  have finite := (world.validPolled_finite runtime).subset accounted.closed_subset
  rw [← Set.ncard_insert_of_notMem fresh finite]
  refine Set.ncard_le_ncard (Set.insert_subset ?_ ?_) ?_
  · exact ⟨by simp [World.resume_acknowledge], event, known.2.2⟩
  · exact World.closed_mono (World.resume_le_acknowledge unacked) fun _ => id
  · exact World.closed_finite fun other found carried handled =>
      (accounted.delivered other found carried handled).1

/-- An acknowledgement pays for the call whose commit it is, whatever comes after it. -/
theorem Accounted.acknowledge (accounted : Accounted runtime world) (safe : Safe runtime log world)
    {position : P → Nat} {p : P} {message : Message} {event : Event F}
    (runs : world.consumer = some ⟨position, .committing p message event⟩) (next : World P F)
    (committed : next.committed = (world.acknowledge p message).committed)
    (processed : next.processed = world.processed) (polled : next.polled = world.polled)
    (stops : world.stops ≤ next.stops)
    (idle : ∀ consumer, next.consumer = some consumer → consumer.phase.worksOn = none) :
    Accounted runtime next where
  -- The call moves from the ones in flight to the closed ones.
  bounded := by
    have more := accounted.closed_acknowledge safe runs
    have same : next.closed = (world.acknowledge p message).closed := by
      simp only [World.closed, World.resume, committed, processed, World.acknowledge]
    have before := accounted.bounded
    have waiting : world.inFlight = 1 := by rw [World.inFlight, runs]; rfl
    rw [processed, same]
    omega
  delivered := by
    rw [processed, polled]
    exact accounted.delivered
  unacked := by
    intro consumer started other found works
    rw [idle consumer started] at works
    cases works

/-- A delivery takes a message that is not yet acknowledged. -/
theorem Accounted.pollMessage (accounted : Accounted runtime world) (safe : Safe runtime log world)
    {position : P → Nat} {p : P} {message : Message}
    (runs : world.consumer = some ⟨position, .polling⟩)
    (next : log.next p (position p) = some message) :
    Accounted runtime
      { world.goto (Function.update position p (message.offset + 1)) (.deserializing p message) with
        polled := world.polled ++ [(p, message)] } where
  -- The position is not behind the committed offset, and the message not behind the position.
  bounded := by
    have before := accounted.bounded
    rwa [World.inFlight, runs] at before
  delivered := by
    intro other found event handled
    obtain ⟨polled, carries⟩ := accounted.delivered other found event handled
    exact ⟨List.mem_append_left _ polled, carries⟩
  unacked := by
    rintro _ ⟨⟩ other found works
    obtain ⟨rfl, rfl⟩ := Prod.mk.inj (Option.some.inj works)
    have ahead : world.resume p ≤ position p := safe.ahead _ runs p
    exact ⟨by simp, le_trans ahead (log.next_ahead next).2⟩

/-- Every step keeps the accounts. -/
theorem Accounted.step {next : World P F} {action : Action P} (accounted : Accounted runtime world)
    (safe : Safe runtime log world) (happens : Happens runtime log world action next) :
    Accounted runtime next := by
  -- One case for each thing that can happen; only returns, commits and stops move the accounts.
  cases happens with
  | start stopped => exact accounted.goto (by simp [World.inFlight, stopped]) (by simp [Phase.worksOn])
  | interrupt runs => exact accounted.stop
  | pollNone runs => exact accounted.advance runs le_rfl fun _ _ => id
  | pollError runs => exact accounted.advance runs le_rfl fun _ _ => id
  | pollMessage runs next => exact accounted.pollMessage safe runs next
  | skip runs read => exact accounted.advance runs le_rfl (by simp [Phase.worksOn])
  | deserialize runs read => exact accounted.advance runs le_rfl fun _ _ => id
  | parserRaises runs read => exact accounted.stop
  | drop runs dropped => exact accounted.advance runs le_rfl (by simp [Phase.worksOn])
  | normalize runs accepted => exact accounted.advance runs le_rfl fun _ _ => id
  | processReturns runs => exact accounted.processReturns safe runs
  | processRaises runs => exact accounted.stop
  | commitReturns runs =>
    refine accounted.acknowledge safe runs _ rfl rfl rfl le_rfl ?_
    rintro _ ⟨⟩
    rfl
  | commitLost runs =>
    refine accounted.acknowledge safe runs _ rfl rfl rfl (Nat.le_succ _) ?_
    intro consumer started
    cases started
  | commitRefused runs => exact accounted.stop

/-! ### What a run preserves -/

omit [DecidableEq P] in
/-- In a state with balanced accounts each call has a message or a stop of its own. -/
theorem Accounted.processed_le (accounted : Accounted runtime world) (safe : Safe runtime log world) :
    world.processed.length ≤ (world.validPolled runtime).ncard + world.stops := by
  have before := accounted.bounded
  have finite := world.validPolled_finite runtime
  cases runs : world.consumer with
  | none =>
    have closed := Set.ncard_le_ncard accounted.closed_subset finite
    have idle : world.inFlight = 0 := by rw [World.inFlight, runs]
    omega
  | some consumer =>
    obtain ⟨position, phase⟩ := consumer
    cases phase with
    | committing p message event =>
      -- The message that is about to be committed was polled and is not closed.
      obtain ⟨polled, unacked⟩ := accounted.unacked _ runs p message rfl
      have fresh : (p, message) ∉ world.closed := fun closed => absurd closed.1 (not_lt.mpr unacked)
      have waiting : world.inFlight = 1 := by rw [World.inFlight, runs]; rfl
      have known : position p = message.offset + 1 ∧ eventOf runtime message = some event ∧
        (p, message, event) ∈ world.processed := safe.knows _ runs
      have valid : (p, message) ∈ world.validPolled runtime := ⟨polled, by simp [known.2.1]⟩
      have closed := Set.ncard_le_ncard (Set.insert_subset valid accounted.closed_subset) finite
      rw [Set.ncard_insert_of_notMem fresh (finite.subset accounted.closed_subset)] at closed
      omega
    | _ =>
      have closed := Set.ncard_le_ncard accounted.closed_subset finite
      have idle : world.inFlight = 0 := by rw [World.inFlight, runs]; rfl
      omega

/-- Every run keeps the accounts. -/
theorem accounted_of_run {final : World P F} {actions : List (Action P)}
    (start : Safe runtime log world ∧ Accounted runtime world)
    (run : runAll (Absm.step runtime log) world actions = some final) :
    Safe runtime log final ∧ Accounted runtime final :=
  -- Both invariants are carried along, since the accounts rest on what the loop knows.
  runAll_invariant (fun state => Safe runtime log state ∧ Accounted runtime state)
    (fun _ _ _ both taken =>
      ⟨both.1.step (happens_of_step taken), both.2.step both.1 (happens_of_step taken)⟩) start run

/-- What a later state has in addition: calls that returned, none of them for the given message. -/
def HandlesNoMore (before after : World P F) (p : P) (message : Message) : Prop :=
  -- Whatever is called afterwards is for other messages.
  ∃ calls, after.processed = before.processed ++ calls ∧ ∀ event, (p, message, event) ∉ calls

/-- A step does not handle a message whose offset is below the committed one. -/
theorem Accounted.step_handlesNoMore {next : World P F} {action : Action P}
    (accounted : Accounted runtime world) {p : P} {message : Message}
    (below : message.offset < world.resume p) (happens : Happens runtime log world action next) :
    HandlesNoMore world next p message := by
  -- Only a return of the handler adds a call, and its message is not yet acknowledged.
  cases happens with
  | @processReturns position other found event runs =>
    refine ⟨[(other, found, event)], rfl, fun carried member => ?_⟩
    cases List.mem_singleton.mp member
    exact absurd below (not_lt.mpr (accounted.unacked _ runs p message rfl).2)
  | _ => exact ⟨[], by simp [World.goto, World.stop, World.acknowledge], by simp⟩

/-- No run handles a message again whose offset is below the committed one. -/
theorem handlesNoMore_of_run {final : World P F} {actions : List (Action P)}
    (safe : Safe runtime log world) (accounted : Accounted runtime world) {p : P} {message : Message}
    (below : message.offset < world.resume p)
    (run : runAll (Absm.step runtime log) world actions = some final) :
    HandlesNoMore world final p message := by
  -- The induction is on the actions; the offset stays below the committed one.
  induction actions generalizing world with
  | nil =>
    cases run
    exact ⟨[], by simp, by simp⟩
  | cons action actions ih =>
    rw [runAll_cons] at run
    obtain ⟨next, taken, rest⟩ := Option.bind_eq_some_iff.mp run
    have happens := happens_of_step taken
    obtain ⟨first, grown, others⟩ := accounted.step_handlesNoMore below happens
    have still : message.offset < next.resume p :=
      lt_of_lt_of_le below ((safe.step_neverBack happens).resume_le p)
    obtain ⟨later, final, none⟩ := ih (safe.step happens) (accounted.step safe happens) still rest
    refine ⟨first ++ later, by rw [final, grown, List.append_assoc], fun event member => ?_⟩
    exact (List.mem_append.mp member).elim (others event) (none event)

/-- The calls that returned are at most as many as the valid messages that were polled and the stops
together, and a handled message below its committed offset is never handled again. -/
theorem consumeLoop_boundedDuplication {reached : World P F} {actions : List (Action P)}
    (run : runAll (Absm.step runtime log) (World.initial P F) actions = some reached) :
    reached.processed.length ≤ (reached.validPolled runtime).ncard + reached.stops ∧
    ∀ p message event, (p, message, event) ∈ reached.processed → ∀ offset,
      reached.committed p = some offset → message.offset < offset →
      ∀ later more, runAll (Absm.step runtime log) reached more = some later →
        HandlesNoMore reached later p message := by
  -- Both parts follow from the accounts in the reached state.
  have start : Safe runtime log (World.initial P F) ∧ Accounted runtime (World.initial P F) :=
    ⟨safe_initial, accounted_initial⟩
  obtain ⟨safe, accounted⟩ := accounted_of_run start run
  refine ⟨accounted.processed_le safe, ?_⟩
  intro p message event _ offset committed below later more onward
  exact handlesNoMore_of_run safe accounted (by simpa [World.resume, committed] using below) onward

/-- The plain message is handled twice when a crash comes before its commit. -/
theorem consumeLoop_boundedDuplication_crash : ∃ reached,
    runAll (Absm.step (plainRuntime (ExtFloat ℚ)) plainLog) (World.initial Unit (ExtFloat ℚ))
      [.start, .pollMessage (), .deserialize, .normalize, .processReturns, .interrupt,
        .start, .pollMessage (), .deserialize, .normalize, .processReturns, .commitReturns] =
        some reached ∧
    reached.processed.length = 2 ∧ reached.stops = 1 ∧
    2 ≤ (reached.validPolled (plainRuntime (ExtFloat ℚ))).ncard + 1 := by
  -- The consumer stops between the return of the handler and the commit, so the message comes again.
  have steps : (runAll (Absm.step (plainRuntime (ExtFloat ℚ)) plainLog)
      (World.initial Unit (ExtFloat ℚ))
      [.start, .pollMessage (), .deserialize, .normalize, .processReturns, .interrupt,
        .start, .pollMessage (), .deserialize, .normalize, .processReturns, .commitReturns]).map
        (fun reached => (reached.processed.length, reached.stops)) = some (2, 1) := by decide +kernel
  obtain ⟨reached, run, counts⟩ := Option.map_eq_some_iff.mp steps
  obtain ⟨handled, stops⟩ := Prod.mk.inj counts
  refine ⟨reached, run, handled, stops, ?_⟩
  have bounded := (consumeLoop_boundedDuplication run).1
  rwa [handled, stops] at bounded

end Absm
