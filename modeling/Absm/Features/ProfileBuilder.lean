import Absm.Features.RollingAggregates

/-! Building a user's profile from the rows that the event store returns. -/

namespace Absm

variable {F : Type}

/-- A user's baseline over a window of days. -/
structure UserProfile (F : Type) where
  /-- The user. -/
  userId : String
  /-- The length of the window. -/
  windowDays : Int
  /-- The features. -/
  features : Dict String F
  /-- When the profile was made. -/
  generatedAt : DateTime
  deriving DecidableEq

/-- A row of a query's answer: the columns by name. -/
abbrev QueryRow (F : Type) := Dict String (Value F)

/-- A row as it is fetched. -/
inductive FetchedRow (F : Type) where
  /-- A dict. -/
  | dict (row : QueryRow F)
  /-- A mapping that is not a dict, such as the records that asyncpg returns. -/
  | record (row : QueryRow F)

/-- Answers `PROFILE_SQL` for a user and the start of the window. -/
abbrev ProfileQuery (F : Type) := String → DateTime → Except PyError (List (FetchedRow F))

/-- Validate a dict as an event of the type that it names; none when it is skipped. -/
def coerceEvent (runtime : Runtime F) (row : QueryRow F) : Option (Event F) := do
  -- The names have no aliases here, unlike in the normalizer.
  let eventType := lower runtime.lowerBeyond
    (runtime.str ((row.get? "event_type").getD (.json (.str ""))))
  let model ← lookupEntry eventType eventModelByType
  modelValidate runtime model row

/-- Validate a fetched row. -/
def coerceFetched (runtime : Runtime F) : FetchedRow F → Option (Event F)
  | .dict row => coerceEvent runtime row
  -- The names can be looked up, but the models validate nothing but dicts.
  | .record _ => none

/-- The loop over the rows, which scrubs each event as soon as it is valid. -/
def scrubRows (runtime : Runtime F) (digests : Digests) (rows : List (FetchedRow F)) :
    List (ScrubbedEvent F) :=
  -- An event that is not accepted is skipped, and the others keep their order.
  (rows.filterMap (coerceFetched runtime)).map (scrub digests)

/-- Of dicts, the ones that are valid are scrubbed. -/
@[simp] theorem scrubRows_dicts (runtime : Runtime F) (digests : Digests) (rows : List (QueryRow F)) :
    scrubRows runtime digests (rows.map .dict) =
      (rows.filterMap (coerceEvent runtime)).map (scrub digests) := by
  -- A dict is validated as it is.
  rw [scrubRows, List.filterMap_map]
  rfl

variable [Statistics F] [OfScientific F]

/-- Build a profile; the clock is read before the query and after the aggregation. -/
def buildUserProfile (runtime : Runtime F) (digests : Digests) (query : ProfileQuery F)
    (now later : DateTime) (userId : String) (windowDays : Int) : Except PyError (UserProfile F) :=
  -- Whatever the query or the aggregation raises ends the call.
  if windowDays ≤ 0 then .error (.valueError "window_days must be positive")
  else do
    let since ← now.minus (windowDays * dayMicros)
    let rows ← query userId since
    let features ← computeAggregates (scrubRows runtime digests rows)
    return ⟨userId, windowDays, features, later⟩

end Absm
