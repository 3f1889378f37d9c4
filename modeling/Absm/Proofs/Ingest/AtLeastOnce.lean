import Absm.Ingest.PlainRuntime
import Absm.Proofs.Ingest.ConsumeLoop

/-! Nothing valid is acknowledged before the handler has returned, whatever crashes and restarts. -/

namespace Absm

variable {F P : Type} [JsonFloat F]

/-- The event of a message, if it carries one, has been handled in a call that returned. -/
def Settled (runtime : Runtime F) (world : World P F) (p : P) (message : Message) : Prop :=
  -- A message that carries no event has nothing to process.
  ∀ event, eventOf runtime message = some event → (p, message, event) ∈ world.processed

/-- The message that the loop has polled and not yet skipped, dropped or handled. -/
def Phase.inHand : Phase P F → Option (P × Message)
  -- While committing, the message has been processed already.
  | .polling => none
  | .deserializing p message => some (p, message)
  | .normalizing p message _ => some (p, message)
  | .processing p message _ => some (p, message)
  | .committing _ _ _ => none

/-- What the loop knows about the message that it is working on. -/
def Phase.Knows (runtime : Runtime F) (world : World P F) (position : P → Nat) : Phase P F → Prop
  -- What has been read stays known from phase to phase.
  | .polling => True
  | .deserializing p message => position p = message.offset + 1
  | .normalizing p message raw =>
    position p = message.offset + 1 ∧ deserializeMessage runtime message = .ok raw
  | .processing p message event =>
    position p = message.offset + 1 ∧ eventOf runtime message = some event
  | .committing p message event =>
    position p = message.offset + 1 ∧ eventOf runtime message = some event ∧
      (p, message, event) ∈ world.processed

/-- The invariant that links committed offsets, the consumer's position and the handled messages. -/
structure Safe (runtime : Runtime F) (log : TopicLog P) (world : World P F) : Prop where
  /-- Below a resume offset every message is settled. -/
  acked : ∀ p, ∀ message ∈ log.messages p, message.offset < world.resume p →
    Settled runtime world p message
  /-- Below the position every message is settled or in hand. -/
  passed : ∀ consumer, world.consumer = some consumer → ∀ p, ∀ message ∈ log.messages p,
    message.offset < consumer.position p →
    Settled runtime world p message ∨ consumer.phase.inHand = some (p, message)
  /-- The position is not behind the committed offset. -/
  ahead : ∀ consumer, world.consumer = some consumer → ∀ p, world.resume p ≤ consumer.position p
  /-- The loop knows what it works on. -/
  knows : ∀ consumer, world.consumer = some consumer →
    consumer.phase.Knows runtime world consumer.position

variable {runtime : Runtime F} {log : TopicLog P} {world : World P F}

/-- A settled message stays settled when more calls return. -/
theorem Settled.mono {other : World P F} {p : P} {message : Message}
    (settled : Settled runtime world p message)
    (more : ∀ call ∈ world.processed, call ∈ other.processed) :
    Settled runtime other p message :=
  -- Processed calls are only added to.
  fun event carries => more _ (settled event carries)

/-- A message whose payload has no content carries no event. -/
theorem eventOf_skip {message : Message} (read : deserializeMessage runtime message = .ok .null) :
    eventOf runtime message = none := by
  -- What is null is no mapping, so the normalizer would drop it too.
  simp [eventOf, read, Raw.ofJson, normalize]

/-- A message whose payload is read carries what the normalizer makes of it. -/
theorem eventOf_read {message : Message} {raw : Json F}
    (read : deserializeMessage runtime message = .ok raw) :
    eventOf runtime message = normalize runtime (.ofJson raw) := by
  -- The payload is read the same way, before the normalizer sees it.
  simp [eventOf, read]

/-- Without an event there is nothing to handle. -/
theorem Settled.of_none {p : P} {message : Message} (nothing : eventOf runtime message = none) :
    Settled runtime world p message := by
  -- A message without an event asks for no call.
  intro event carries
  rw [nothing] at carries
  cases carries

/-- A message whose event has been handled in a call that returned is settled. -/
theorem Settled.of_handled {p : P} {message : Message} {event : Event F}
    (carried : eventOf runtime message = some event)
    (handled : (p, message, event) ∈ world.processed) : Settled runtime world p message := by
  -- A message carries one event at most.
  intro other carries
  obtain rfl : event = other := Option.some.inj (carried.symm.trans carries)
  exact handled

/-- At most one message is in hand, so it is enough to settle that one. -/
theorem Settled.inHand {phase : Phase P F} {p : P} {message : Message}
    (settled : Settled runtime world p message) (hand : phase.inHand = some (p, message)) :
    ∀ other found, phase.inHand = some (other, found) → Settled runtime world other found := by
  -- There is only one message in hand.
  intro other found held
  obtain ⟨rfl, rfl⟩ := Prod.mk.inj (Option.some.inj (hand.symm.trans held))
  exact settled

/-- Delivery passes over no message: what lies below the delivered offset lay below the position. -/
theorem TopicLog.next_passed {p : P} {position : Nat} {message other : Message}
    (next : log.next p position = some message) (member : other ∈ log.messages p)
    (below : other.offset < message.offset + 1) : other.offset < position ∨ other = message := by
  -- The delivered message is the first one at the position or behind it.
  obtain ⟨_, before, after, split, skipped⟩ := List.find?_eq_some_iff_append.mp next
  have sorted := log.increasing p
  rw [split] at member sorted
  rcases List.mem_append.mp member with early | late
  · exact .inl (by simpa using skipped other early)
  · rcases List.mem_cons.mp late with same | later
    · exact .inr same
    · have order := (List.pairwise_cons.mp (List.pairwise_append.mp sorted).2.1).1 other later
      omega

/-- Delivery does not go back. -/
theorem TopicLog.next_ahead {p : P} {position : Nat} {message : Message}
    (next : log.next p position = some message) :
    message ∈ log.messages p ∧ position ≤ message.offset :=
  -- The next message is found at or after the position.
  ⟨List.mem_of_find?_eq_some next, by simpa using List.find?_some next⟩

/-- Before the first start nothing is committed, so nothing needs to be settled. -/
theorem safe_initial : Safe runtime log (World.initial P F) where
  -- All resume offsets are zero, and no consumer runs.
  acked := by
    intro p message _ below
    exact absurd below (by simp [World.resume, World.initial, World.restored])
  passed := by
    intro consumer runs
    cases runs
  ahead := by
    intro consumer runs
    cases runs
  knows := by
    intro consumer runs
    cases runs

/-- Stopping keeps the invariant: what is in hand is forgotten, and what is committed stays. -/
theorem Safe.stop (safe : Safe runtime log world) : Safe runtime log world.stop where
  -- Three of the four facts are about a consumer that runs.
  acked := safe.acked
  passed := by
    intro consumer runs
    cases runs
  ahead := by
    intro consumer runs
    cases runs
  knows := by
    intro consumer runs
    cases runs

/-- Moving on at the same position keeps the invariant if nothing unsettled is let go. -/
theorem Safe.goto (safe : Safe runtime log world) {position : P → Nat} {phase next : Phase P F}
    (runs : world.consumer = some ⟨position, phase⟩)
    (released : ∀ p message, phase.inHand = some (p, message) →
      Settled runtime world p message ∨ next.inHand = some (p, message))
    (knows : next.Knows runtime world position) : Safe runtime log (world.goto position next) where
  -- What was in hand is either settled or still in hand.
  acked := safe.acked
  passed := by
    rintro _ ⟨⟩ p message member below
    rcases safe.passed _ runs p message member below with settled | held
    · exact .inl settled
    · exact released p message held
  ahead := by
    rintro _ ⟨⟩ p
    exact safe.ahead _ runs p
  knows := by
    rintro _ ⟨⟩
    cases next <;> exact knows

/-- A start delivers from the committed offsets, below which everything is settled. -/
theorem Safe.start (safe : Safe runtime log world) :
    Safe runtime log (world.goto world.resume .polling) where
  -- The position is the resume offset itself.
  acked := safe.acked
  passed := by
    rintro _ ⟨⟩ p message member below
    exact .inl (safe.acked p message member below)
  ahead := by
    rintro _ ⟨⟩ p
    exact le_rfl
  knows := by
    rintro _ ⟨⟩
    trivial

/-- A return of the handler settles the message in hand. -/
theorem Safe.processReturns (safe : Safe runtime log world) {position : P → Nat} {p : P}
    {message : Message} {event : Event F}
    (runs : world.consumer = some ⟨position, .processing p message event⟩) :
    Safe runtime log
      { world.goto position (.committing p message event) with
        processed := world.processed ++ [(p, message, event)] } := by
  -- More calls have returned, so what was settled still is.
  have known := safe.knows _ runs
  simp only [Phase.Knows] at known
  have kept : ∀ call ∈ world.processed, call ∈ world.processed ++ [(p, message, event)] :=
    fun call member => List.mem_append_left _ member
  exact {
    acked := fun other found member below => (safe.acked other found member below).mono kept
    passed := by
      rintro _ ⟨⟩ other found member below
      rcases safe.passed _ runs other found member below with settled | held
      · exact .inl (settled.mono kept)
      · -- The message that was in hand is the one that the call was made with.
        exact .inl ((Settled.of_handled known.2 (by simp)).inHand rfl other found held)
    ahead := by
      rintro _ ⟨⟩ other
      exact safe.ahead _ runs other
    knows := by
      rintro _ ⟨⟩
      exact ⟨known.1, known.2, by simp⟩ }

variable [DecidableEq P]

omit [JsonFloat F] in
/-- The resume offset of the partition that is acknowledged, and of every other one. -/
theorem World.resume_acknowledge (world : World P F) (p other : P) (message : Message) :
    (world.acknowledge p message).resume other =
      if other = p then message.offset + 1 else world.resume other := by
  -- Only the committed offset of the one partition is written.
  by_cases same : other = p
  · subst same
    simp [World.resume, World.acknowledge]
  · simp [World.resume, World.acknowledge, same]

/-- A delivery takes no position back. -/
theorem TopicLog.next_forward {position : P → Nat} {p : P} {message : Message}
    (next : log.next p (position p) = some message) (other : P) :
    position other ≤ Function.update position p (message.offset + 1) other := by
  -- Only the partition of the message moves, to behind the message.
  have forward := (log.next_ahead next).2
  by_cases same : other = p
  · subst same
    rw [Function.update_self]
    omega
  · rw [Function.update_of_ne same]

/-- A delivery takes the message in hand. -/
theorem Safe.pollMessage (safe : Safe runtime log world) {position : P → Nat} {p : P}
    {message : Message} (runs : world.consumer = some ⟨position, .polling⟩)
    (next : log.next p (position p) = some message) :
    Safe runtime log
      { world.goto (Function.update position p (message.offset + 1)) (.deserializing p message) with
        polled := world.polled ++ [(p, message)] } where
  -- Behind the old position lies nothing but the message that is now in hand.
  acked := safe.acked
  passed := by
    rintro _ ⟨⟩ other found member below
    have idle : (Phase.polling : Phase P F).inHand ≠ some (other, found) := by simp [Phase.inHand]
    by_cases same : other = p
    · subst same
      simp only [Function.update_self] at below
      rcases log.next_passed next member below with earlier | rfl
      · exact .inl ((safe.passed _ runs other found member earlier).resolve_right idle)
      · exact .inr rfl
    · simp only [Function.update_of_ne same] at below
      exact .inl ((safe.passed _ runs other found member below).resolve_right idle)
  ahead := by
    rintro _ ⟨⟩ other
    exact le_trans (safe.ahead _ runs other) (log.next_forward next other)
  knows := by
    rintro _ ⟨⟩
    simp [Phase.Knows]

/-- An acknowledgement covers only settled messages, and leaves the position ahead. -/
theorem Safe.acknowledge (safe : Safe runtime log world) {position : P → Nat} {p : P}
    {message : Message} {event : Event F}
    (runs : world.consumer = some ⟨position, .committing p message event⟩) :
    Safe runtime log (world.acknowledge p message) := by
  -- The offset that is committed is the position of the partition.
  have known := safe.knows _ runs
  simp only [Phase.Knows] at known
  exact {
    acked := by
      intro other found member below
      rw [World.resume_acknowledge] at below
      split at below
      · -- The committed offset is the position, below which nothing is in hand any more.
        rename_i same
        subst same
        rw [← known.1] at below
        rcases safe.passed _ runs other found member below with settled | held
        · exact settled
        · simp [Phase.inHand] at held
      · exact safe.acked other found member below
    passed := safe.passed
    ahead := by
      intro consumer started other
      rw [World.resume_acknowledge]
      split
      · rename_i same
        obtain rfl : ⟨position, .committing p message event⟩ = consumer :=
          Option.some.inj (runs.symm.trans started)
        subst same
        exact known.1.ge
      · exact safe.ahead consumer started other
    knows := by
      intro consumer started
      have before := safe.knows consumer started
      cases phase : consumer.phase <;> rw [phase] at before <;> exact before }

/-- Every step keeps the invariant. -/
theorem Safe.step {next : World P F} {action : Action P} (safe : Safe runtime log world)
    (happens : Happens runtime log world action next) : Safe runtime log next := by
  -- One case for each thing that can happen, most of them moves at the same position.
  cases happens with
  | start stopped => exact safe.start
  | interrupt runs => exact safe.stop
  | pollNone runs => exact safe.goto runs (by simp [Phase.inHand]) trivial
  | pollError runs => exact safe.goto runs (by simp [Phase.inHand]) trivial
  | pollMessage runs next => exact safe.pollMessage runs next
  -- A payload without content carries no event, so letting it go loses nothing.
  | @skip _ p message runs read =>
    have settled : Settled runtime world p message := .of_none (eventOf_skip read)
    exact safe.goto runs (fun other found held => .inl (settled.inHand rfl other found held))
      trivial
  | deserialize runs read =>
    have known := safe.knows _ runs
    exact safe.goto runs (fun other found held => .inr held) ⟨known, read⟩
  | parserRaises runs read => exact safe.stop
  -- What the normalizer rejects is no event either.
  | @drop _ p message _ runs dropped =>
    have known := safe.knows _ runs
    have settled : Settled runtime world p message :=
      .of_none ((eventOf_read known.2).trans dropped)
    exact safe.goto runs (fun other found held => .inl (settled.inHand rfl other found held))
      trivial
  | normalize runs accepted =>
    have known := safe.knows _ runs
    exact safe.goto runs (fun other found held => .inr held)
      ⟨known.1, by rw [eventOf_read known.2, accepted]⟩
  | processReturns runs => exact safe.processReturns runs
  | processRaises runs => exact safe.stop
  | commitReturns runs =>
    exact (safe.acknowledge runs).goto runs (by simp [Phase.inHand]) trivial
  -- The broker may have stored an offset whose commit raised.
  | commitLost runs => exact (safe.acknowledge runs).stop
  | commitRefused runs => exact safe.stop

/-- The invariant holds in every state that a run reaches. -/
theorem safe_of_run {final : World P F} {actions : List (Action P)}
    (start : Safe runtime log world)
    (run : runAll (Absm.step runtime log) world actions = some final) : Safe runtime log final :=
  -- One step preserves it, so every run does.
  runAll_invariant (Safe runtime log)
    (fun _ _ _ safe taken => safe.step (happens_of_step taken)) start run

/-- No partition's committed offset is lower in the second state, or gone. -/
def NeverBack (before after : World P F) : Prop :=
  -- An offset that has been committed is never withdrawn or lowered.
  ∀ p offset, before.committed p = some offset →
    ∃ later, after.committed p = some later ∧ offset ≤ later

omit [JsonFloat F] [DecidableEq P] in
/-- Equal committed offsets are not lower. -/
theorem NeverBack.of_eq {before after : World P F} (same : after.committed = before.committed) :
    NeverBack before after :=
  -- The same offsets are found.
  fun p offset found => ⟨offset, by rw [same, found], le_rfl⟩

omit [JsonFloat F] [DecidableEq P] in
/-- Where no committed offset goes back, no resume offset does. -/
theorem NeverBack.resume_le {before after : World P F} (neverBack : NeverBack before after) (p : P) :
    before.resume p ≤ after.resume p := by
  -- Without a committed offset the resume offset is zero.
  cases found : before.committed p with
  | none => simp [World.resume, found]
  | some offset =>
    obtain ⟨later, kept, order⟩ := neverBack p offset found
    simpa [World.resume, found, kept] using order

/-- An acknowledgement raises the committed offset, since the position is ahead of it. -/
theorem Safe.acknowledge_neverBack (safe : Safe runtime log world) {position : P → Nat} {p : P}
    {message : Message} {event : Event F}
    (runs : world.consumer = some ⟨position, .committing p message event⟩) :
    NeverBack world (world.acknowledge p message) := by
  -- The position is the committed offset now, and was not behind the old one.
  intro other offset found
  have known := safe.knows _ runs
  have ahead := safe.ahead _ runs other
  by_cases same : other = p
  · subst same
    simp only [World.resume, found, Option.getD_some] at ahead
    exact ⟨message.offset + 1, by simp [World.acknowledge], by rw [← known.1]; exact ahead⟩
  · exact ⟨offset, by simp [World.acknowledge, same, found], le_rfl⟩

/-- No step takes a committed offset back. -/
theorem Safe.step_neverBack {next : World P F} {action : Action P}
    (safe : Safe runtime log world) (happens : Happens runtime log world action next) :
    NeverBack world next := by
  -- Only the two commits that take effect touch the committed offsets.
  cases happens with
  | commitReturns runs => exact safe.acknowledge_neverBack runs
  | commitLost runs => exact safe.acknowledge_neverBack runs
  | _ => exact .of_eq rfl

/-- No run from a safe state takes a committed offset back. -/
theorem neverBack_of_run {final : World P F} {actions : List (Action P)}
    (start : Safe runtime log world)
    (run : runAll (Absm.step runtime log) world actions = some final) : NeverBack world final := by
  -- The invariant has to be carried along, since a step alone could commit anything.
  refine (runAll_invariant (fun state => Safe runtime log state ∧ NeverBack world state)
    (fun state action next reached taken => ?_) ⟨start, .of_eq rfl⟩ run).2
  have happens := happens_of_step taken
  refine ⟨reached.1.step happens, fun p offset found => ?_⟩
  obtain ⟨middle, kept, first⟩ := reached.2 p offset found
  obtain ⟨later, stored, second⟩ := reached.1.step_neverBack happens p middle kept
  exact ⟨later, stored, le_trans first second⟩

/-- In every reachable state each valid message below a committed offset has been handled in a call
that returned, and from there on no committed offset ever decreases. -/
theorem consumeLoop_atLeastOnce {reached : World P F} {actions : List (Action P)}
    (run : runAll (Absm.step runtime log) (World.initial P F) actions = some reached) :
    (∀ p, ∀ message ∈ log.messages p, ∀ offset, reached.committed p = some offset →
      message.offset < offset → ∀ event, eventOf runtime message = some event →
      (p, message, event) ∈ reached.processed) ∧
    ∀ later more, runAll (Absm.step runtime log) reached more = some later →
      NeverBack reached later := by
  -- The invariant holds from the first state on, and from the reached state on.
  have safe := safe_of_run safe_initial run
  refine ⟨fun p message member offset committed below => ?_, fun later more onward =>
    neverBack_of_run safe onward⟩
  exact safe.acked p message member (by simpa [World.resume, committed] using below)

/-- The payload of a plain authentication event. -/
def plainPayload : String :=
  -- The smallest payload that is accepted.
  "\x7b\"user_id\":\"00000000000000000000000000000001\",\"timestamp\":0,\"event_type\":\"auth\"\x7d"

/-- The event that the plain payload carries. -/
def plainEvent (F : Type) : Event F :=
  -- The event of that payload.
  ⟨1, .epoch, .auth, none, none, none, none⟩

/-- A log of one partition that holds a plain message. -/
def plainLog : TopicLog Unit :=
  -- One message at offset zero.
  ⟨fun _ => [⟨0, some plainPayload.toUTF8⟩], fun _ => List.pairwise_singleton _ _⟩

/-- The plain message is handled and committed by six steps of the loop, and it has been handled
when its offset is committed. -/
theorem consumeLoop_atLeastOnce_plain : ∃ reached,
    runAll (Absm.step (plainRuntime (ExtFloat ℚ)) plainLog) (World.initial Unit (ExtFloat ℚ))
      [.start, .pollMessage (), .deserialize, .normalize, .processReturns, .commitReturns] =
        some reached ∧ reached.committed () = some 1 ∧
    ((), ⟨0, some plainPayload.toUTF8⟩, plainEvent (ExtFloat ℚ)) ∈ reached.processed := by
  -- The run handles and commits the one message of the log.
  have steps : (runAll (Absm.step (plainRuntime (ExtFloat ℚ)) plainLog)
      (World.initial Unit (ExtFloat ℚ))
      [.start, .pollMessage (), .deserialize, .normalize, .processReturns, .commitReturns]).bind
        (fun reached => reached.committed ()) = some 1 := by decide +kernel
  obtain ⟨reached, run, committed⟩ := Option.bind_eq_some_iff.mp steps
  have carries : eventOf (plainRuntime (ExtFloat ℚ)) ⟨0, some plainPayload.toUTF8⟩ =
      some (plainEvent (ExtFloat ℚ)) := by decide +kernel
  exact ⟨reached, run, committed, (consumeLoop_atLeastOnce run).1 () _ (List.mem_singleton_self _) 1
    committed Nat.one_pos _ carries⟩

end Absm
