import Absm.Foundation.Loops
import Absm.Storage.TimescaledbWriter

/-! The retry loop of the event writer, round by round, and a writer that is called again and again. -/

namespace Absm

variable {F : Type}

/-- An exception that an attempt to execute the batch raises. -/
inductive AttemptError where
  /-- A `PostgresError`. -/
  | postgresError (message : String)
  /-- Any other exception. -/
  | other (error : PyError)
  deriving DecidableEq

/-- How an attempt to execute the batch ends. -/
inductive Attempt where
  /-- All rows are stored. -/
  | stores
  /-- An exception is raised, and no row is stored. -/
  | fails (error : AttemptError)
  deriving DecidableEq

/-- What the loop has done so far. -/
structure WriteLoop (F : Type) where
  /-- The variable `attempt`, which counts the errors of the database. -/
  attempt : Nat
  /-- The variable `delay`. -/
  delay : ℚ
  /-- How often `executemany` has been called. -/
  executions : Nat
  /-- The delays between the attempts. -/
  slept : List ℚ
  /-- The table. -/
  table : List (StoredRow F)
  /-- How the loop was left, if it was. -/
  outcome : Option (Except AttemptError Unit)

namespace WriteLoop

/-- The loop before its first round. -/
def start (table : List (StoredRow F)) : WriteLoop F :=
  -- No attempt has been made, and the first delay is half a second.
  ⟨0, 0.5, 0, [], table, none⟩

/-- One round: an attempt, and what is made of its error. -/
def round (records : List (Uuid × DateTime × String)) (attempts : Nat → Attempt)
    (loop : WriteLoop F) : WriteLoop F :=
  match attempts loop.executions with
  | .stores => { loop with
      executions := loop.executions + 1
      table := loop.table ++ records.map insertRow
      outcome := some (.ok ()) }
  | .fails (.postgresError message) =>
    let attempt := loop.attempt + 1
    if 3 ≤ attempt then { loop with
      attempt
      executions := loop.executions + 1
      outcome := some (.error (.postgresError message)) }
    -- The delay doubles with every attempt.
    else { loop with
      attempt
      executions := loop.executions + 1
      slept := loop.slept ++ [loop.delay]
      delay := loop.delay * 2 }
  -- Only errors of the database are caught.
  | .fails (.other error) => { loop with
      executions := loop.executions + 1
      outcome := some (.error (.other error)) }

/-- Whether the loop was left. -/
def left (loop : WriteLoop F) : Bool :=
  -- A loop is left when its outcome is known, by a return or by an exception.
  loop.outcome.isSome

end WriteLoop

/-- What is asked of the writer, and how each attempt that it makes will end. -/
structure WriteCall (F : Type) where
  /-- The events to store. -/
  events : List (Event F)
  /-- The end of every attempt, counted from the first one. -/
  attempts : Nat → Attempt

namespace WriteCall

/-- The records that the writer makes of the events. -/
def records (call : WriteCall F) : List (Uuid × DateTime × String) :=
  -- The records keep the order of the events.
  call.events.map insertRecord

/-- The rows that these records become. -/
def rows (call : WriteCall F) : List (StoredRow F) := call.records.map insertRow

end WriteCall

/-- What has become of a call. -/
structure WriteAnswer where
  /-- How often `executemany` was called. -/
  executions : Nat
  /-- Whether the call returned or raised. -/
  outcome : Except AttemptError Unit

/-- A call of the writer on a table, with what becomes of both. -/
inductive Writes : List (StoredRow F) → WriteCall F → WriteAnswer → List (StoredRow F) → Prop where
  /-- An empty batch does not reach the database. -/
  | empty {table : List (StoredRow F)} {call : WriteCall F} (nothing : call.events = []) :
      Writes table call ⟨0, .ok ()⟩ table
  /-- The loop runs until it is left. -/
  | loop {table : List (StoredRow F)} {call : WriteCall F} {count : Nat} {final : WriteLoop F}
      {outcome : Except AttemptError Unit} (something : call.events ≠ [])
      (ends : LoopEnds (WriteLoop.round call.records call.attempts) WriteLoop.left count
        (WriteLoop.start table) final)
      (leaves : final.outcome = some outcome) :
      Writes table call ⟨final.executions, outcome⟩ final.table

/-- Calls of the writer one after another, each with its answer. -/
inductive WritesAll : List (StoredRow F) → List (WriteCall F × WriteAnswer) → List (StoredRow F) →
    Prop where
  /-- Nothing is asked. -/
  | nil {table : List (StoredRow F)} : WritesAll table [] table
  /-- A call is made, whatever the calls before it have come to. -/
  | cons {table middle final : List (StoredRow F)} {call : WriteCall F} {answer : WriteAnswer}
      {history : List (WriteCall F × WriteAnswer)} (first : Writes table call answer middle)
      (rest : WritesAll middle history final) : WritesAll table ((call, answer) :: history) final

end Absm
