import Absm.Ingest.KafkaConsumer

/-! What the consume loop guarantees through crashes: no message is acknowledged before it is handled. -/

namespace Absm

variable {F P : Type} [JsonFloat F] [DecidableEq P]

/-- The steps of the loop, one constructor for each thing that can happen. -/
inductive Happens (runtime : Runtime F) (log : TopicLog P) (world : World P F) :
    Action P → World P F → Prop where
  /-- A stopped consumer is started at the committed offsets. -/
  | start (stopped : world.consumer = none) :
      Happens runtime log world .start (world.goto world.resume .polling)
  /-- A running consumer is stopped from outside. -/
  | interrupt {consumer : Consumer P F} (runs : world.consumer = some consumer) :
      Happens runtime log world .interrupt world.stop
  /-- Nothing is delivered. -/
  | pollNone {position : P → Nat} (runs : world.consumer = some ⟨position, .polling⟩) :
      Happens runtime log world .pollNone (world.goto position .polling)
  /-- An error object is delivered. -/
  | pollError {position : P → Nat} (runs : world.consumer = some ⟨position, .polling⟩) :
      Happens runtime log world .pollError (world.goto position .polling)
  /-- The next message of a partition is delivered. -/
  | pollMessage {position : P → Nat} {p : P} {message : Message}
      (runs : world.consumer = some ⟨position, .polling⟩)
      (next : log.next p (position p) = some message) :
      Happens runtime log world (.pollMessage p)
        { world.goto (Function.update position p (message.offset + 1)) (.deserializing p message) with
          polled := world.polled ++ [(p, message)] }
  /-- A message without content is skipped. -/
  | skip {position : P → Nat} {p : P} {message : Message}
      (runs : world.consumer = some ⟨position, .deserializing p message⟩)
      (read : deserializeMessage runtime message = .ok .null) :
      Happens runtime log world .deserialize (world.goto position .polling)
  /-- A message is deserialized. -/
  | deserialize {position : P → Nat} {p : P} {message : Message} {raw : Json F}
      (runs : world.consumer = some ⟨position, .deserializing p message⟩)
      (read : deserializeMessage runtime message = .ok raw) :
      Happens runtime log world .deserialize (world.goto position (.normalizing p message raw))
  /-- An exception leaves the parser and the loop. -/
  | parserRaises {position : P → Nat} {p : P} {message : Message} {error : PyError}
      (runs : world.consumer = some ⟨position, .deserializing p message⟩)
      (read : deserializeMessage runtime message = .error error) :
      Happens runtime log world .deserialize world.stop
  /-- A message is dropped by the normalizer. -/
  | drop {position : P → Nat} {p : P} {message : Message} {raw : Json F}
      (runs : world.consumer = some ⟨position, .normalizing p message raw⟩)
      (dropped : normalize runtime (.ofJson raw) = none) :
      Happens runtime log world .normalize (world.goto position .polling)
  /-- A message is normalized to an event. -/
  | normalize {position : P → Nat} {p : P} {message : Message} {raw : Json F} {event : Event F}
      (runs : world.consumer = some ⟨position, .normalizing p message raw⟩)
      (accepted : normalize runtime (.ofJson raw) = some event) :
      Happens runtime log world .normalize (world.goto position (.processing p message event))
  /-- The handler returns. -/
  | processReturns {position : P → Nat} {p : P} {message : Message} {event : Event F}
      (runs : world.consumer = some ⟨position, .processing p message event⟩) :
      Happens runtime log world .processReturns
        { world.goto position (.committing p message event) with
          processed := world.processed ++ [(p, message, event)] }
  /-- The handler raises. -/
  | processRaises {position : P → Nat} {p : P} {message : Message} {event : Event F}
      (runs : world.consumer = some ⟨position, .processing p message event⟩) :
      Happens runtime log world .processRaises world.stop
  /-- The commit succeeds. -/
  | commitReturns {position : P → Nat} {p : P} {message : Message} {event : Event F}
      (runs : world.consumer = some ⟨position, .committing p message event⟩) :
      Happens runtime log world .commitReturns ((world.acknowledge p message).goto position .polling)
  /-- The commit raises although the broker stored the offset. -/
  | commitLost {position : P → Nat} {p : P} {message : Message} {event : Event F}
      (runs : world.consumer = some ⟨position, .committing p message event⟩) :
      Happens runtime log world (.commitFails true) (world.acknowledge p message).stop
  /-- The commit raises and nothing was stored. -/
  | commitRefused {position : P → Nat} {p : P} {message : Message} {event : Event F}
      (runs : world.consumer = some ⟨position, .committing p message event⟩) :
      Happens runtime log world (.commitFails false) world.stop

/-- Every step that is taken is one of those that can happen. -/
theorem happens_of_step {runtime : Runtime F} {log : TopicLog P} {world next : World P F}
    {action : Action P} (taken : step runtime log world action = some next) :
    Happens runtime log world action next := by
  -- The cases of the step function are those of the relation, in the same order.
  unfold step at taken
  split at taken
  case h_1 stopped =>
    cases taken
    exact .start stopped
  case h_2 => cases taken
  case h_3 runs =>
    cases taken
    exact .interrupt runs
  case h_4 runs =>
    cases taken
    exact .pollNone runs
  case h_5 runs =>
    cases taken
    exact .pollError runs
  case h_6 runs =>
    obtain ⟨message, next, rfl⟩ := Option.map_eq_some_iff.mp taken
    exact .pollMessage runs next
  case h_7 runs =>
    split at taken
    case h_1 read =>
      cases taken
      exact .skip runs read
    case h_2 read =>
      cases taken
      exact .deserialize runs read
    case h_3 read =>
      cases taken
      exact .parserRaises runs read
  case h_8 runs =>
    split at taken
    case h_1 dropped =>
      cases taken
      exact .drop runs dropped
    case h_2 accepted =>
      cases taken
      exact .normalize runs accepted
  case h_9 runs =>
    cases taken
    exact .processReturns runs
  case h_10 runs =>
    cases taken
    exact .processRaises runs
  case h_11 runs =>
    cases taken
    exact .commitReturns runs
  case h_12 took runs =>
    cases taken
    cases took
    · exact .commitRefused runs
    · exact .commitLost runs
  case h_13 => cases taken

end Absm
