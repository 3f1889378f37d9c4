import Absm.Foundation.Runs
import Absm.Ingest.Normalizer
import Mathlib.Logic.Function.Basic

/-! The consume loop as a machine that the broker, the handler and failures drive step by step. -/

namespace Absm

variable {F : Type}

/-- A message of a partition, with its payload if it has one. -/
structure Message where
  /-- Where the message stands in its partition. -/
  offset : Nat
  /-- The payload. -/
  value : Option ByteArray

/-- Decode and parse a payload; `None` comes back for one that is empty or malformed. -/
def deserializeMessage [JsonFloat F] (runtime : Runtime F) (message : Message) :
    Except PyError (Json F) :=
  match message.value with
  | none => .ok .null
  | some payload =>
    match String.fromUTF8? payload with
    -- `UnicodeDecodeError` is caught.
    | none => .ok .null
    | some text =>
      match loads runtime.room text.toList with
      | .ok raw => .ok raw
      -- `JSONDecodeError` is caught, and no other exception of the parser.
      | .error .jsonDecodeError => .ok .null
      | .error error => .error error.toPyError

/-- The event that a message carries, if its payload is deserialized and normalized to one. -/
def eventOf [JsonFloat F] (runtime : Runtime F) (message : Message) : Option (Event F) :=
  -- A message that cannot be parsed carries no event, and neither does one that is dropped.
  match deserializeMessage runtime message with
  | .ok raw => normalize runtime (.ofJson raw)
  | .error _ => none

/-- The messages of every partition, in the order of their offsets. -/
structure TopicLog (P : Type) where
  /-- The messages of a partition. -/
  messages : P → List Message
  /-- Offsets increase, possibly with gaps. -/
  increasing : ∀ p, (messages p).Pairwise fun first second => first.offset < second.offset

/-- Where the body of the loop stands. -/
inductive Phase (P F : Type) where
  /-- About to call `poll`. -/
  | polling
  /-- About to deserialize the message that was polled. -/
  | deserializing (p : P) (message : Message)
  /-- About to normalize what the message denotes. -/
  | normalizing (p : P) (message : Message) (raw : Json F)
  /-- Inside `process_event`. -/
  | processing (p : P) (message : Message) (event : Event F)
  /-- Behind a normal return of `process_event`, about to commit or inside `commit`. -/
  | committing (p : P) (message : Message) (event : Event F)

/-- A consumer that has been started and not been closed. -/
structure Consumer (P F : Type) where
  /-- The least offset that the broker has not yet passed over for this consumer. -/
  position : P → Nat
  /-- Where its loop stands. -/
  phase : Phase P F

/-- The broker, the consumer if one runs, and the history of what happened. -/
structure World (P F : Type) where
  /-- The committed offset of every partition that has one. -/
  committed : P → Option Nat
  /-- The running consumer. -/
  consumer : Option (Consumer P F)
  /-- The messages that were polled. -/
  polled : List (P × Message)
  /-- The calls of `process_event` that returned normally. -/
  processed : List (P × Message × Event F)
  /-- How often a consumer was stopped. -/
  stops : Nat

/-- No consumer has been started, and some offsets were committed earlier. -/
def World.restored {P : Type} (F : Type) (committed : P → Option Nat) : World P F :=
  -- After a start nothing has been polled, processed or stopped.
  ⟨committed, none, [], [], 0⟩

/-- Before the first start nothing is committed. -/
def World.initial (P F : Type) : World P F :=
  -- Nothing has ever been committed.
  .restored F fun _ => none

/-- The offset from which a partition is delivered after a start. -/
def World.resume {P : Type} (world : World P F) (p : P) : Nat :=
  -- Without a commit a partition is read from its first message on.
  (world.committed p).getD 0

/-- What can happen next; the loop itself decides nothing but which of these are possible. -/
inductive Action (P : Type) where
  /-- A consumer is created and subscribes. -/
  | start
  /-- `poll` returns `None`. -/
  | pollNone
  /-- `poll` returns an error object. -/
  | pollError
  /-- `poll` returns the next message of a partition. -/
  | pollMessage (p : P)
  /-- `_deserialize_message` runs. -/
  | deserialize
  /-- `normalize` runs. -/
  | normalize
  /-- `process_event` returns. -/
  | processReturns
  /-- `process_event` raises. -/
  | processRaises
  /-- `commit` returns. -/
  | commitReturns
  /-- `commit` raises, having taken effect or not. -/
  | commitFails (took : Bool)
  /-- `poll` raises, the user interrupts the loop, or the process is killed. -/
  | interrupt
  deriving DecidableEq

variable {P : Type} [DecidableEq P]

/-- The consumer is gone: an exception left the loop, which closes it, or the process died. -/
def World.stop (world : World P F) : World P F :=
  -- A crash takes the positions with it, and leaves what is committed and processed.
  { world with consumer := none, stops := world.stops + 1 }

/-- The loop moves on to another phase. -/
def World.goto (world : World P F) (position : P → Nat) (phase : Phase P F) : World P F :=
  -- Only what the consumer keeps in memory changes.
  { world with consumer := some ⟨position, phase⟩ }

/-- The broker stores the offset behind a message. -/
def World.acknowledge (world : World P F) (p : P) (message : Message) : World P F :=
  -- The commit names the message after the one that was handled.
  { world with committed := Function.update world.committed p (some (message.offset + 1)) }

/-- The next message of a partition at or behind an offset. -/
def TopicLog.next (log : TopicLog P) (p : P) (position : Nat) : Option Message :=
  -- Offsets grow along the log, so the first one that fits is the next one.
  (log.messages p).find? fun message => position ≤ message.offset

/-- One step of the loop and its environment; none when the action cannot happen now. -/
def step [JsonFloat F] (runtime : Runtime F) (log : TopicLog P) (world : World P F)
    (action : Action P) : Option (World P F) :=
  match world.consumer, action with
  | none, .start => some (world.goto world.resume .polling)
  | none, _ => none
  | some _, .interrupt => some world.stop
  | some ⟨position, .polling⟩, .pollNone => some (world.goto position .polling)
  -- An error object is logged or ignored; either way the loop goes on.
  | some ⟨position, .polling⟩, .pollError => some (world.goto position .polling)
  | some ⟨position, .polling⟩, .pollMessage p =>
    (log.next p (position p)).map fun message =>
      { world.goto (Function.update position p (message.offset + 1)) (.deserializing p message) with
        polled := world.polled ++ [(p, message)] }
  | some ⟨position, .deserializing p message⟩, .deserialize =>
    match deserializeMessage runtime message with
    -- `None` and a document that is the constant `null` are the same object.
    | .ok .null => some (world.goto position .polling)
    | .ok raw => some (world.goto position (.normalizing p message raw))
    | .error _ => some world.stop
  | some ⟨position, .normalizing p message raw⟩, .normalize =>
    match normalize runtime (.ofJson raw) with
    -- A dropped event is not committed.
    | none => some (world.goto position .polling)
    | some event => some (world.goto position (.processing p message event))
  | some ⟨position, .processing p message event⟩, .processReturns =>
    some { world.goto position (.committing p message event) with
      processed := world.processed ++ [(p, message, event)] }
  | some ⟨_, .processing _ _ _⟩, .processRaises => some world.stop
  | some ⟨position, .committing p message _⟩, .commitReturns =>
    some ((world.acknowledge p message).goto position .polling)
  | some ⟨_, .committing p message _⟩, .commitFails took =>
    some (if took then world.acknowledge p message else world).stop
  | some _, _ => none

end Absm
