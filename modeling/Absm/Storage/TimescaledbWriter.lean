import Absm.Features.ProfileBuilder

/-! Writing events to the event store, and the store's answer to the profile query. -/

namespace Absm

variable {F : Type}

/-- A row of the table `security_events`; columns that may be NULL are optional. -/
structure StoredRow (F : Type) where
  /-- The column `user_id`. -/
  userId : Uuid
  /-- The column `timestamp`. -/
  timestamp : DateTime
  /-- The column `event_type`. -/
  eventType : String
  /-- The column `ip`. -/
  ip : Option String
  /-- The column `email`. -/
  email : Option String
  /-- The column `session_duration_s`. -/
  sessionDurationS : Option F
  /-- The column `bytes_out`. -/
  bytesOut : Option Int

/-- The record that the writer makes of an event. -/
def insertRecord (event : Event F) : Uuid × DateTime × String :=
  -- Only these three fields are named by `INSERT_SQL`.
  (event.userId, event.timestamp, event.eventType.text)

/-- The row that `INSERT_SQL` stores for a record: columns that it does not name are NULL. -/
def insertRow (record : Uuid × DateTime × String) : StoredRow F :=
  -- A column that is not named is NULL.
  ⟨record.1, record.2.1, record.2.2, none, none, none, none⟩

/-- How an attempt to execute the batch ends. -/
inductive InsertOutcome where
  /-- All rows are stored. -/
  | stores
  /-- A `PostgresError` is raised and no row is stored. -/
  | postgresError
  /-- Any other exception is raised and no row is stored. -/
  | raises (error : PyError)

/-- What a call of the writer leaves behind. -/
structure WriteResult (F : Type) where
  /-- Whether the call returned or raised. -/
  outcome : Except PyError Unit
  /-- The table afterwards. -/
  table : List (StoredRow F)
  /-- The delays between the attempts. -/
  slept : List ℚ

/-- Attempt to store records, with some attempts left after this one. -/
def attemptInsert (records : List (Uuid × DateTime × String)) (outcome : Nat → InsertOutcome)
    (table : List (StoredRow F)) : Nat → Nat → ℚ → List ℚ → WriteResult F
  | left, attempt, delay, slept =>
    match outcome attempt, left with
    | .stores, _ => ⟨.ok (), table ++ records.map insertRow, slept⟩
    -- Only errors of the database are tried again.
    | .raises error, _ => ⟨.error error, table, slept⟩
    | .postgresError, 0 => ⟨.error .osError, table, slept⟩
    -- The delay doubles with every attempt.
    | .postgresError, left + 1 =>
      attemptInsert records outcome table left (attempt + 1) (delay * 2) (slept ++ [delay])

/-- Store a batch of events in at most three attempts. -/
def writeBatch (events : List (Event F)) (outcome : Nat → InsertOutcome)
    (table : List (StoredRow F)) : WriteResult F :=
  -- An empty batch does not reach the database.
  if events = [] then ⟨.ok (), table, []⟩
  else attemptInsert (events.map insertRecord) outcome table 2 0 0.5 []

/-- The columns that `PROFILE_SQL` selects from a row. -/
def selectRow (row : StoredRow F) : QueryRow F :=
  -- A NULL becomes `None`.
  .ofList [("user_id", .uuid row.userId), ("timestamp", .datetime row.timestamp),
    ("event_type", .json (.str row.eventType)),
    ("ip", nullable (fun text => .json (.str text)) row.ip),
    ("email", nullable (fun text => .json (.str text)) row.email),
    ("session_duration_s", nullable (fun value => .json (.float value)) row.sessionDurationS),
    ("bytes_out", nullable (fun value => .json (.int value)) row.bytesOut)]

/-- The query for a user is answered with that user's rows since the start of the window as dicts, in the
order of their timestamps. -/
def Answers (table : List (StoredRow F)) (query : ProfileQuery F) (userId : Uuid)
    (userText : String) : Prop :=
  -- Rows of equal timestamps come in any order.
  ∀ since : DateTime, ∃ rows : List (StoredRow F),
    rows.Perm (table.filter fun row => row.userId = userId ∧ since.clock ≤ row.timestamp.clock) ∧
    rows.Pairwise (fun first second => first.timestamp.clock ≤ second.timestamp.clock) ∧
    query userText since = .ok ((rows.map selectRow).map .dict)

/-- The table after writing batches of events one after another, provided that each call returns. -/
def writeBatches : List (List (Event F) × (Nat → InsertOutcome)) → List (StoredRow F) →
    Option (List (StoredRow F))
  -- A batch whose call raises ends the story.
  | [], table => some table
  | (events, outcome) :: batches, table =>
    match (writeBatch events outcome table).outcome with
    | .ok () => writeBatches batches (writeBatch events outcome table).table
    | .error _ => none

end Absm
