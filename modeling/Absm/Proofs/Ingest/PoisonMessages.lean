import Absm.Proofs.Ingest.AtLeastOnce
import Mathlib.Data.List.TakeWhile

/-! Which payloads end the consume loop, and that without them it goes through the whole log. -/

namespace Absm

variable {F P : Type} [JsonFloat F] [DecidableEq P]

/-- Neither the broker, nor the handler, nor the user ends the loop. -/
def Action.calm : Action P → Bool
  -- Everything but crashes, restarts and failing calls.
  | .pollNone => true
  | .pollError => true
  | .pollMessage _ => true
  | .deserialize => true
  | .normalize => true
  | .processReturns => true
  | .commitReturns => true
  | .start => false
  | .processRaises => false
  | .commitFails _ => false
  | .interrupt => false

/-- A state that the loop reaches from a start at the committed offsets while nothing else fails. -/
def Calmly (runtime : Runtime F) (log : TopicLog P) (world reached : World P F) : Prop :=
  -- Some order of calm steps leads there.
  ∃ actions, (∀ action ∈ actions, action.calm = true) ∧
    runAll (step runtime log) world actions = some reached

/-- The loop is at `poll`, and the broker has nothing left for it in a partition. -/
def Drained (log : TopicLog P) (world : World P F) (p : P) : Prop :=
  -- The consumer polls and finds nothing left.
  ∃ position, world.consumer = some ⟨position, .polling⟩ ∧ log.next p (position p) = none

/-- Payloads alone never keep a started consumer from going through the log. -/
structure KeepsConsuming (runtime : Runtime F) (log : TopicLog P) (world : World P F) : Prop where
  /-- The loop does not end. -/
  running : ∀ reached, Calmly runtime log (world.goto world.resume .polling) reached →
    reached.consumer ≠ none
  /-- Once nothing is left of a partition, it was polled and what is valid in it was handled. -/
  complete : ∀ reached, Calmly runtime log (world.goto world.resume .polling) reached →
    ∀ p, Drained log reached p → ∀ message ∈ log.messages p, world.resume p ≤ message.offset →
      (p, message) ∈ reached.polled ∧ Settled runtime reached p message
  /-- From everywhere the loop can go on until nothing is left of a partition. -/
  progress : ∀ reached, Calmly runtime log (world.goto world.resume .polling) reached →
    ∀ p, ∃ later, Calmly runtime log reached later ∧ Drained log later p

/-- A payload on which the parser raises an exception that is not caught. -/
def Poison (runtime : Runtime F) (message : Message) : Prop :=
  -- Text in UTF-8 on which `json.loads` raises something else than `JSONDecodeError`.
  ∃ payload text, message.value = some payload ∧ String.fromUTF8? payload = some text ∧
    ((loads runtime.room text.toList : Except LoadsError (Json F)) = .error .valueError ∨
      (loads runtime.room text.toList : Except LoadsError (Json F)) = .error .recursionError)

variable {runtime : Runtime F} {log : TopicLog P} {world : World P F}

omit [DecidableEq P] in
/-- The exceptions that leave the deserializer are those of poisonous payloads. -/
theorem poison_iff {message : Message} :
    Poison runtime message ↔ ∃ error, deserializeMessage runtime message = .error error := by
  -- Every branch but one of the deserializer returns a value.
  constructor
  · rintro ⟨payload, text, value, decoded, raised | raised⟩
    · exact ⟨_, by simp only [deserializeMessage, value, decoded, raised]; rfl⟩
    · exact ⟨_, by simp only [deserializeMessage, value, decoded, raised]; rfl⟩
  · rintro ⟨error, raised⟩
    unfold deserializeMessage at raised
    split at raised
    case h_1 => cases raised
    case h_2 payload value =>
      split at raised
      case h_1 => cases raised
      case h_2 text decoded =>
        split at raised
        case h_1 => cases raised
        case h_2 => cases raised
        case h_3 cause other read =>
          refine ⟨payload, text, value, decoded, ?_⟩
          cases cause with
          | jsonDecodeError => exact absurd rfl other
          | valueError => exact .inl read
          | recursionError => exact .inr read

omit [DecidableEq P] in
/-- A payload that has been read is not poisonous. -/
theorem not_poison_of_read {message : Message} {raw : Json F}
    (read : deserializeMessage runtime message = .ok raw) : ¬ Poison runtime message := by
  -- A payload that is read raises nothing.
  rw [poison_iff, read]
  rintro ⟨error, raised⟩
  cases raised

/-- No steps are calm steps. -/
theorem Calmly.refl : Calmly runtime log world world :=
  -- No step is taken.
  ⟨[], by simp, rfl⟩

/-- Calm runs compose. -/
theorem Calmly.trans {middle last : World P F} (first : Calmly runtime log world middle)
    (second : Calmly runtime log middle last) : Calmly runtime log world last := by
  -- The second list of actions is put behind the first one.
  obtain ⟨before, calmBefore, runBefore⟩ := first
  obtain ⟨after, calmAfter, runAfter⟩ := second
  refine ⟨before ++ after, fun action member => ?_, by rw [runAll_append, runBefore]; exact runAfter⟩
  rcases List.mem_append.mp member with early | late
  · exact calmBefore action early
  · exact calmAfter action late

/-- A calm step is a calm run. -/
theorem Calmly.single {next : World P F} {action : Action P} (calm : action.calm = true)
    (taken : step runtime log world action = some next) : Calmly runtime log world next :=
  -- A run of one step.
  ⟨[action], by simpa using calm, by simp [runAll, taken]⟩

/-- What calm steps preserve holds at the end of calm runs. -/
theorem Calmly.invariant (holds : World P F → Prop) {reached : World P F}
    (preserved : ∀ state action next, holds state → action.calm = true →
      Happens runtime log state action next → holds next)
    (start : holds world) (calmly : Calmly runtime log world reached) : holds reached := by
  -- The induction is on the actions, each of which is calm.
  obtain ⟨actions, calm, run⟩ := calmly
  induction actions generalizing world with
  | nil =>
    cases run
    exact start
  | cons action actions ih =>
    rw [runAll_cons] at run
    obtain ⟨next, taken, rest⟩ := Option.bind_eq_some_iff.mp run
    exact ih (preserved world action next start (calm action (by simp)) (happens_of_step taken))
      (fun other member => calm other (List.mem_cons_of_mem _ member)) rest

/-! ### A log without poison -/

/-- What holds of a running consumer that has gone on calmly from its first offsets. -/
structure Consuming (runtime : Runtime F) (log : TopicLog P) (origin : P → Nat) (world : World P F)
    (consumer : Consumer P F) : Prop where
  /-- The consumer runs. -/
  runs : world.consumer = some consumer
  /-- It has not gone back. -/
  behind : ∀ p, origin p ≤ consumer.position p
  /-- What it has in hand is a message of the log, not before the first offset. -/
  holds : ∀ p message, consumer.phase.inHand = some (p, message) →
    message ∈ log.messages p ∧ origin p ≤ message.offset
  /-- The loop knows what it works on. -/
  knows : consumer.phase.Knows runtime world consumer.position
  /-- Everything that it has passed was polled, and is settled unless it is in hand. -/
  covered : ∀ p, ∀ message ∈ log.messages p, origin p ≤ message.offset →
    message.offset < consumer.position p → (p, message) ∈ world.polled ∧
      (Settled runtime world p message ∨ consumer.phase.inHand = some (p, message))

variable {origin : P → Nat}

omit [DecidableEq P] in
/-- Moving on at the same position keeps the facts if what is let go is settled. -/
theorem Consuming.goto {position : P → Nat} {phase next : Phase P F} {later : World P F}
    (consuming : Consuming runtime log origin world ⟨position, phase⟩)
    (runs : later.consumer = some ⟨position, next⟩) (polled : later.polled = world.polled)
    (more : ∀ call ∈ world.processed, call ∈ later.processed)
    (released : ∀ p message, phase.inHand = some (p, message) →
      Settled runtime later p message ∨ next.inHand = some (p, message))
    (keeps : ∀ p message, next.inHand = some (p, message) → phase.inHand = some (p, message))
    (knows : next.Knows runtime later position) :
    Consuming runtime log origin later ⟨position, next⟩ where
  -- The position stays, so the same messages are passed as before.
  runs := runs
  behind := consuming.behind
  holds p message held := consuming.holds p message (keeps p message held)
  knows := knows
  covered := by
    intro p message member start below
    obtain ⟨seen, settled | held⟩ := consuming.covered p message member start below
    · exact ⟨polled ▸ seen, .inl (settled.mono more)⟩
    · exact ⟨polled ▸ seen, released p message held⟩

/-- A delivery takes a message of the log in hand. -/
theorem Consuming.pollMessage {position : P → Nat} {p : P} {message : Message}
    (consuming : Consuming runtime log origin world ⟨position, .polling⟩)
    (next : log.next p (position p) = some message) :
    Consuming runtime log origin
      { world.goto (Function.update position p (message.offset + 1)) (.deserializing p message) with
        polled := world.polled ++ [(p, message)] }
      ⟨Function.update position p (message.offset + 1), .deserializing p message⟩ where
  -- The delivered message is passed and in hand at the same time.
  runs := rfl
  behind := by
    intro other
    exact le_trans (consuming.behind other) (log.next_forward next other)
  holds := by
    rintro other found ⟨⟩
    have before : origin p ≤ position p := consuming.behind p
    exact ⟨(log.next_ahead next).1, le_trans before (log.next_ahead next).2⟩
  knows := by simp [Phase.Knows]
  covered := by
    intro other found member start below
    have idle : (Phase.polling : Phase P F).inHand ≠ some (other, found) := by simp [Phase.inHand]
    have earlier : found.offset < position other → (other, found) ∈ world.polled ++ [(p, message)] ∧
        Settled runtime world other found := fun before =>
      (consuming.covered other found member start before).imp (List.mem_append_left _)
        (Or.resolve_right · idle)
    simp only at below
    by_cases same : other = p
    · subst same
      rw [Function.update_self] at below
      rcases log.next_passed next member below with before | rfl
      · exact (earlier before).imp id .inl
      · exact ⟨by simp, .inr rfl⟩
    · rw [Function.update_of_ne same] at below
      exact (earlier below).imp id .inl

/-- A calm step over payloads that are not poisonous keeps the consumer going. -/
theorem Consuming.step {next : World P F} {action : Action P} {consumer : Consumer P F}
    (clean : ∀ p, ∀ message ∈ log.messages p, origin p ≤ message.offset → ¬ Poison runtime message)
    (consuming : Consuming runtime log origin world consumer) (calm : action.calm = true)
    (happens : Happens runtime log world action next) :
    ∃ after, Consuming runtime log origin next after := by
  -- One case for each thing that can happen; the calm ones move the loop on.
  have runs' := consuming.runs
  cases happens with
  | start stopped => cases calm
  | interrupt runs => cases calm
  | processRaises runs => cases calm
  | commitLost runs => cases calm
  | commitRefused runs => cases calm
  | pollNone runs =>
    cases runs.symm.trans runs'
    exact ⟨_, consuming.goto rfl rfl (fun _ => id) (by simp [Phase.inHand]) (fun _ _ => id) trivial⟩
  | pollError runs =>
    cases runs.symm.trans runs'
    exact ⟨_, consuming.goto rfl rfl (fun _ => id) (by simp [Phase.inHand]) (fun _ _ => id) trivial⟩
  | pollMessage runs next =>
    cases runs.symm.trans runs'
    exact ⟨_, consuming.pollMessage next⟩
  | @skip position p message runs read =>
    cases runs.symm.trans runs'
    have settled : Settled runtime (world.goto position .polling) p message :=
      .of_none (eventOf_skip read)
    exact ⟨_, consuming.goto rfl rfl (fun _ => id)
      (fun other found held => .inl (settled.inHand rfl other found held))
      (by simp [Phase.inHand]) trivial⟩
  | deserialize runs read =>
    cases runs.symm.trans runs'
    exact ⟨_, consuming.goto rfl rfl (fun _ => id) (fun _ _ => .inr) (fun _ _ => id)
      ⟨consuming.knows, read⟩⟩
  | @parserRaises position p message error runs read =>
    -- The parser can only raise on a message that is assumed to be harmless.
    cases runs.symm.trans runs'
    obtain ⟨member, start⟩ := consuming.holds p message rfl
    exact absurd (poison_iff.mpr ⟨error, read⟩) (clean p message member start)
  | @drop position p message raw runs dropped =>
    cases runs.symm.trans runs'
    have known : position p = message.offset + 1 ∧ deserializeMessage runtime message = .ok raw :=
      consuming.knows
    have settled : Settled runtime (world.goto position .polling) p message :=
      .of_none ((eventOf_read known.2).trans dropped)
    exact ⟨_, consuming.goto rfl rfl (fun _ => id)
      (fun other found held => .inl (settled.inHand rfl other found held))
      (by simp [Phase.inHand]) trivial⟩
  | @normalize position p message raw event runs accepted =>
    cases runs.symm.trans runs'
    have known : position p = message.offset + 1 ∧ deserializeMessage runtime message = .ok raw :=
      consuming.knows
    exact ⟨_, consuming.goto rfl rfl (fun _ => id) (fun _ _ => .inr) (fun _ _ => id)
      ⟨known.1, by rw [eventOf_read known.2, accepted]⟩⟩
  | @processReturns position p message event runs =>
    cases runs.symm.trans runs'
    have known : position p = message.offset + 1 ∧ eventOf runtime message = some event :=
      consuming.knows
    exact ⟨_, consuming.goto rfl rfl (fun call member => List.mem_append_left _ member)
      (fun other found held =>
        .inl ((Settled.of_handled known.2 (by simp)).inHand rfl other found held))
      (by simp [Phase.inHand]) ⟨known.1, known.2, by simp⟩⟩
  | commitReturns runs =>
    cases runs.symm.trans runs'
    exact ⟨_, consuming.goto rfl rfl (fun _ => id) (by simp [Phase.inHand]) (fun _ _ => id) trivial⟩

/-- Calm runs over a harmless log keep the consumer going. -/
theorem Consuming.calmly {reached : World P F} {consumer : Consumer P F}
    (clean : ∀ p, ∀ message ∈ log.messages p, origin p ≤ message.offset → ¬ Poison runtime message)
    (consuming : Consuming runtime log origin world consumer)
    (calmly : Calmly runtime log world reached) :
    ∃ after, Consuming runtime log origin reached after :=
  -- Some consumer is going on after every calm step.
  calmly.invariant (fun state => ∃ after, Consuming runtime log origin state after)
    (fun _ _ _ going calm happens =>
      going.elim fun _ consuming => consuming.step clean calm happens) ⟨consumer, consuming⟩

/-- A calm step leads to a consumer that keeps going, at the place where the step says it stands. -/
theorem Consuming.advance {next : World P F} {action : Action P} {consumer after : Consumer P F}
    (clean : ∀ p, ∀ message ∈ log.messages p, origin p ≤ message.offset → ¬ Poison runtime message)
    (consuming : Consuming runtime log origin world consumer) (calm : action.calm = true)
    (taken : Absm.step runtime log world action = some next) (runs : next.consumer = some after) :
    Calmly runtime log world next ∧ Consuming runtime log origin next after := by
  -- The consumer that the step lemma finds is the one that runs afterwards.
  obtain ⟨found, going⟩ := consuming.step clean calm (happens_of_step taken)
  obtain rfl : found = after := Option.some.inj (going.runs.symm.trans runs)
  exact ⟨.single calm taken, going⟩

/-- From the commit the loop gets back to `poll`. -/
theorem Consuming.commit {position : P → Nat} {p : P} {message : Message} {event : Event F}
    (clean : ∀ p, ∀ message ∈ log.messages p, origin p ≤ message.offset → ¬ Poison runtime message)
    (consuming : Consuming runtime log origin world ⟨position, .committing p message event⟩) :
    ∃ later, Calmly runtime log world later ∧
      Consuming runtime log origin later ⟨position, .polling⟩ := by
  -- One step, which the broker answers.
  have taken : Absm.step runtime log world .commitReturns =
      some ((world.acknowledge p message).goto position .polling) := by
    simp only [Absm.step, consuming.runs]
  exact ⟨_, consuming.advance clean rfl taken rfl⟩

/-- From the handler the loop gets back to `poll`. -/
theorem Consuming.process {position : P → Nat} {p : P} {message : Message} {event : Event F}
    (clean : ∀ p, ∀ message ∈ log.messages p, origin p ≤ message.offset → ¬ Poison runtime message)
    (consuming : Consuming runtime log origin world ⟨position, .processing p message event⟩) :
    ∃ later, Calmly runtime log world later ∧
      Consuming runtime log origin later ⟨position, .polling⟩ := by
  -- The handler returns, and the commit follows.
  have taken : Absm.step runtime log world .processReturns = some
      { world.goto position (.committing p message event) with
        processed := world.processed ++ [(p, message, event)] } := by
    simp only [Absm.step, consuming.runs]
  obtain ⟨first, going⟩ := consuming.advance clean rfl taken rfl
  obtain ⟨later, rest, done⟩ := going.commit clean
  exact ⟨later, first.trans rest, done⟩

/-- From the normalizer the loop gets back to `poll`. -/
theorem Consuming.normalize {position : P → Nat} {p : P} {message : Message} {raw : Json F}
    (clean : ∀ p, ∀ message ∈ log.messages p, origin p ≤ message.offset → ¬ Poison runtime message)
    (consuming : Consuming runtime log origin world ⟨position, .normalizing p message raw⟩) :
    ∃ later, Calmly runtime log world later ∧
      Consuming runtime log origin later ⟨position, .polling⟩ := by
  -- A rejected event leads back at once, an accepted one through the handler.
  cases accepted : Absm.normalize runtime (.ofJson raw) with
  | none =>
    have taken : Absm.step runtime log world .normalize = some (world.goto position .polling) := by
      simp only [Absm.step, consuming.runs, accepted]
    exact ⟨_, consuming.advance clean rfl taken rfl⟩
  | some event =>
    have taken : Absm.step runtime log world .normalize =
        some (world.goto position (.processing p message event)) := by
      simp only [Absm.step, consuming.runs, accepted]
    obtain ⟨first, going⟩ := consuming.advance clean rfl taken rfl
    obtain ⟨later, rest, done⟩ := going.process clean
    exact ⟨later, first.trans rest, done⟩

/-- From the deserializer the loop gets back to `poll`. -/
theorem Consuming.deserialize {position : P → Nat} {p : P} {message : Message}
    (clean : ∀ p, ∀ message ∈ log.messages p, origin p ≤ message.offset → ¬ Poison runtime message)
    (consuming : Consuming runtime log origin world ⟨position, .deserializing p message⟩) :
    ∃ later, Calmly runtime log world later ∧
      Consuming runtime log origin later ⟨position, .polling⟩ := by
  -- Reading cannot raise, since the message is not poisonous.
  obtain ⟨member, start⟩ := consuming.holds p message rfl
  cases read : deserializeMessage runtime message with
  | error error => exact absurd (poison_iff.mpr ⟨error, read⟩) (clean p message member start)
  | ok raw =>
    by_cases skipped : raw = .null
    · have taken : Absm.step runtime log world .deserialize = some (world.goto position .polling) := by
        simp only [Absm.step, consuming.runs, read, skipped]
      exact ⟨_, consuming.advance clean rfl taken rfl⟩
    · have taken : Absm.step runtime log world .deserialize =
          some (world.goto position (.normalizing p message raw)) := by
        simp only [Absm.step, consuming.runs, read]
      obtain ⟨first, going⟩ := consuming.advance clean rfl taken rfl
      obtain ⟨later, rest, done⟩ := going.normalize clean
      exact ⟨later, first.trans rest, done⟩

/-- From everywhere the loop gets back to `poll`, with the position that it has. -/
theorem Consuming.finish {consumer : Consumer P F}
    (clean : ∀ p, ∀ message ∈ log.messages p, origin p ≤ message.offset → ¬ Poison runtime message)
    (consuming : Consuming runtime log origin world consumer) :
    ∃ later, Calmly runtime log world later ∧
      Consuming runtime log origin later ⟨consumer.position, .polling⟩ := by
  -- Each phase has its own number of steps to the next poll.
  obtain ⟨position, phase⟩ := consumer
  cases phase with
  | polling => exact ⟨world, .refl, consuming⟩
  | deserializing p message => exact consuming.deserialize clean
  | normalizing p message raw => exact consuming.normalize clean
  | processing p message event => exact consuming.process clean
  | committing p message event => exact consuming.commit clean

/-- The messages of a partition that are still to be delivered. -/
def TopicLog.remaining (log : TopicLog P) (p : P) (position : Nat) : List Message :=
  -- What a restart at the position would read.
  (log.messages p).filter fun message => position ≤ message.offset

omit [DecidableEq P] in
/-- A delivery leaves fewer messages to be delivered. -/
theorem TopicLog.remaining_lt {p : P} {position : Nat} {message : Message}
    (next : log.next p position = some message) :
    (log.remaining p (message.offset + 1)).length < (log.remaining p position).length := by
  -- The delivered message is the one that is missing afterwards.
  obtain ⟨member, forward⟩ := log.next_ahead next
  have fewer : log.remaining p (message.offset + 1) =
      (log.remaining p position).filter fun other => message.offset + 1 ≤ other.offset := by
    rw [remaining, remaining, List.filter_filter]
    refine List.filter_congr fun other _ => ?_
    simp only [← Bool.decide_and]
    exact decide_eq_decide.mpr ⟨fun later => ⟨later, by omega⟩, And.left⟩
  rw [fewer]
  refine List.length_filter_lt_length_iff_exists.mpr ⟨message, ?_, by simp⟩
  exact List.mem_filter.mpr ⟨member, by simpa using forward⟩

/-- From `poll` the loop gets to the end of a partition. -/
theorem Consuming.drain {position : P → Nat} (p : P)
    (clean : ∀ p, ∀ message ∈ log.messages p, origin p ≤ message.offset → ¬ Poison runtime message)
    (consuming : Consuming runtime log origin world ⟨position, .polling⟩) :
    ∃ later, Calmly runtime log world later ∧ Drained log later p := by
  -- The induction is on the number of messages that are still to be delivered.
  induction size : (log.remaining p (position p)).length using Nat.strong_induction_on
    generalizing world position with
  | _ size ih =>
    cases next : log.next p (position p) with
    | none => exact ⟨world, .refl, position, consuming.runs, next⟩
    | some message =>
      have taken : Absm.step runtime log world (.pollMessage p) = some
          { world.goto (Function.update position p (message.offset + 1))
              (.deserializing p message) with polled := world.polled ++ [(p, message)] } := by
        simp only [Absm.step, consuming.runs, next, Option.map_some]
      obtain ⟨middle, handled, going⟩ := (consuming.pollMessage next).finish clean
      have fewer := log.remaining_lt next
      obtain ⟨later, rest, done⟩ := ih _ (by simpa [size] using fewer) going (by simp)
      exact ⟨later, ((Calmly.single rfl taken).trans handled).trans rest, done⟩

omit [DecidableEq P] in
/-- A consumer that has just been started keeps going. -/
theorem consuming_start (world : World P F) :
    Consuming runtime log world.resume (world.goto world.resume .polling)
      ⟨world.resume, .polling⟩ where
  -- Nothing lies between the first offsets and the position, which are the same.
  runs := rfl
  behind _ := le_rfl
  holds := by simp [Phase.inHand]
  knows := trivial
  covered := by
    intro p message _ start below
    exact absurd below (by simpa using start)

/-- Without poisonous payloads the loop goes through the log. -/
theorem keepsConsuming_of_clean
    (clean : ∀ p, ∀ message ∈ log.messages p, world.resume p ≤ message.offset →
      ¬ Poison runtime message) : KeepsConsuming runtime log world where
  -- All three facts are read off the consumer that keeps going.
  running := by
    intro reached calmly
    obtain ⟨consumer, going⟩ := (consuming_start world).calmly clean calmly
    simp [going.runs]
  complete := by
    rintro reached calmly p ⟨position, runs, empty⟩ message member start
    obtain ⟨consumer, going⟩ := (consuming_start world).calmly clean calmly
    obtain rfl : ⟨position, .polling⟩ = consumer := Option.some.inj (runs.symm.trans going.runs)
    have below : message.offset < position p := by
      have passed := List.find?_eq_none.mp empty message member
      simpa using passed
    obtain ⟨seen, settled⟩ := going.covered p message member start below
    exact ⟨seen, settled.resolve_right (by simp [Phase.inHand])⟩
  progress := by
    intro reached calmly p
    obtain ⟨consumer, going⟩ := (consuming_start world).calmly clean calmly
    obtain ⟨middle, first, idle⟩ := going.finish clean
    obtain ⟨later, rest, done⟩ := idle.drain p clean
    exact ⟨later, first.trans rest, done⟩

/-! ### A log with poison -/

/-- Of the messages polled, only the one just delivered can be poisonous while the loop runs. -/
def Unharmed (runtime : Runtime F) (world : World P F) : Prop :=
  -- The one harm allowed is the message being read now.
  ∀ consumer, world.consumer = some consumer → ∀ p message, (p, message) ∈ world.polled →
    Poison runtime message → consumer.phase = .deserializing p message

/-- Every calm step of the loop keeps it unharmed or ends it. -/
theorem Unharmed.step {next : World P F} {action : Action P} (unharmed : Unharmed runtime world)
    (calm : action.calm = true) (happens : Happens runtime log world action next) :
    Unharmed runtime next := by
  -- A poisonous message can only be in the hands of the deserializer, which then ends the loop.
  have idle : ∀ {position phase}, world.consumer = some ⟨position, phase⟩ →
      (∀ p message, Poison runtime message → phase ≠ .deserializing p message) →
      ∀ p message, (p, message) ∈ world.polled → ¬ Poison runtime message :=
    fun runs harmless p message seen poison =>
      harmless p message poison (unharmed _ runs p message seen poison)
  -- A message that was read is none of the poisonous ones.
  have reading : ∀ {position p message} {raw : Json F},
      world.consumer = some ⟨position, .deserializing p message⟩ →
      deserializeMessage runtime message = .ok raw →
      ∀ other found, (other, found) ∈ world.polled → ¬ Poison runtime found := by
    intro position p message raw runs read
    refine idle runs fun q given poisoned same => ?_
    obtain ⟨rfl, rfl⟩ : p = q ∧ message = given := by simpa using same
    exact not_poison_of_read read poisoned
  cases happens with
  | start stopped => cases calm
  | interrupt runs => cases calm
  | processRaises runs => cases calm
  | commitLost runs => cases calm
  | commitRefused runs => cases calm
  | parserRaises runs read =>
    intro consumer started
    cases started
  | pollMessage runs next =>
    rintro _ ⟨⟩ p message seen poison
    rcases List.mem_append.mp seen with before | now
    · exact absurd poison (idle runs (by simp) p message before)
    · simp only [List.mem_singleton, Prod.mk.injEq] at now
      simp [now]
  | skip runs read | deserialize runs read =>
    rintro _ ⟨⟩ p message seen poison
    exact absurd poison (reading runs read p message seen)
  | pollNone runs | pollError runs | drop runs | normalize runs | processReturns runs
  | commitReturns runs =>
    -- No other phase holds a message that is still to be deserialized.
    rintro _ ⟨⟩ p message seen poison
    exact absurd poison (idle runs (by simp) p message seen)

/-- A loop that goes through the log has met no poisonous payload. -/
theorem KeepsConsuming.clean (going : KeepsConsuming runtime log world)
    (fresh : world.polled = []) (p : P) {message : Message} (member : message ∈ log.messages p)
    (start : world.resume p ≤ message.offset) : ¬ Poison runtime message := by
  -- The end of the partition is reached with the message polled, and no phase is left to hold it.
  intro poison
  obtain ⟨later, calmly, drained⟩ := going.progress _ .refl p
  have seen := (going.complete later calmly p drained message member start).1
  obtain ⟨position, runs, _⟩ := drained
  have unharmed : Unharmed runtime later := calmly.invariant (Unharmed runtime)
    (fun _ _ _ before calm happens => before.step calm happens) (by
      intro _ _ q other polled
      simp [World.goto, fresh] at polled)
  cases unharmed _ runs p message seen poison

/-- The loop goes through the log from the committed offsets exactly when no message at or behind
them has a payload on which the parser raises an exception that is not caught. -/
theorem keepsConsuming_iff (runtime : Runtime F) (log : TopicLog P) (committed : P → Option Nat) :
    KeepsConsuming runtime log (.restored F committed) ↔
      ∀ p, ∀ message ∈ log.messages p, (committed p).getD 0 ≤ message.offset →
        ¬ Poison runtime message :=
  -- A poison after the restart point stops it, and without one it goes on.
  ⟨fun going p _ member start => going.clean rfl p member start,
    fun clean => keepsConsuming_of_clean clean⟩

/-- Encoding a text and decoding it gives it back. -/
theorem fromUTF8?_toUTF8 (text : String) : String.fromUTF8? text.toUTF8 = some text := by
  -- The bytes of a string are valid by construction.
  simp [String.fromUTF8?, String.fromUTF8, text.isValidUTF8]

/-- A document that is an integer literal of too many digits raises a plain `ValueError`. -/
theorem loads_longInteger (room : Nat) {c : Char} {digits : List Char}
    (first : c.isDigit = true ∧ c ≠ '0') (rest : ∀ d ∈ digits, d.isDigit = true)
    (long : maxIntDigits ≤ digits.length) :
    (loads room (c :: digits) : Except LoadsError (Json F)) = .error .valueError := by
  -- The literal is scanned to its end, and only its conversion fails.
  have taken : digits.takeWhile Char.isDigit = digits := List.takeWhile_eq_self_iff.mpr rest
  have dropped : digits.dropWhile Char.isDigit = [] := List.dropWhile_eq_nil_iff.mpr rest
  have differs : ∀ other : Char, other.isDigit = false → c ≠ other := by
    rintro other noDigit rfl
    rw [first.1] at noDigit
    cases noDigit
  have visible : c.isWhitespace = false := by
    cases blank : c.isWhitespace with
    | false => rfl
    | true =>
      simp only [Char.isWhitespace, Bool.or_eq_true, decide_eq_true_eq] at blank
      rcases blank with ((rfl | rfl) | rfl) | rfl
      all_goals exact absurd first.1 (by decide)
  have atom : (scanAtom (c :: digits) : Except LoadsError (Json F × List Char)) =
      .error .valueError := by
    have size : maxIntDigits < digits.length + 1 := by omega
    simp [scanAtom, constants, List.isPrefixOf, scanNumber, integerPart, fractionPart, exponentPart,
      first.1, first.2, taken, dropped, size, (differs 'n' rfl).symm, (differs 't' rfl).symm,
      (differs 'f' rfl).symm, (differs 'N' rfl).symm, (differs 'I' rfl).symm,
      (differs '-' rfl).symm, differs '-' rfl]
  have once : (scanOnce room (c :: digits) : Except LoadsError (Json F × List Char)) =
      .error .valueError := by
    cases room <;> simp [scanOnce, scanValue, differs '"' rfl, differs '\x7b' rfl, differs '[' rfl, atom]
  have whole : skipWhitespace (c :: digits) = c :: digits := by
    simp [skipWhitespace, visible]
  simp [loads, differs '\uFEFF' rfl, whole, once, Bind.bind, Except.bind]

/-- A log whose only payload is an integer of 4301 digits. -/
def longIntegerLog : TopicLog Unit :=
  -- One digit more than Python reads into an integer.
  ⟨fun _ => [⟨0, some (String.ofList ('1' :: List.replicate 4300 '1')).toUTF8⟩],
    fun _ => List.pairwise_singleton _ _⟩

/-- An integer of 4301 digits ends the loop, although no call but the parser fails. -/
theorem keepsConsuming_longInteger :
    ¬ KeepsConsuming (plainRuntime (ExtFloat ℚ)) longIntegerLog (.initial Unit (ExtFloat ℚ)) := by
  -- The one message of the log is poisonous.
  intro going
  refine going.clean rfl () (List.mem_singleton_self _) (Nat.zero_le _)
    ⟨_, _, rfl, fromUTF8?_toUTF8 _, .inl ?_⟩
  rw [String.toList_ofList]
  refine loads_longInteger _ ⟨by decide, by decide⟩ (fun d member => ?_) ?_
  · rw [List.eq_of_mem_replicate member]
    decide
  · rw [List.length_replicate]
    decide

end Absm
