import Absm.Features.ProfileBuilder

/-! Fetching a user's rows through either kind of database driver. -/

namespace Absm

variable {F : Type}

/-- The rows that a cursor has fetched. -/
inductive CursorRows (F : Type) where
  /-- Mappings from columns to values. -/
  | keyed (rows : List (QueryRow F))
  /-- Values alone, and the names that the cursor's description gives to their columns. -/
  | positional (columnNames : List String) (rows : List (List (Value F)))

/-- The rows as mappings; names and values are paired as far as both go. -/
def CursorRows.mappings : CursorRows F → List (QueryRow F)
  -- A column that is named twice keeps its last value.
  | .keyed rows => rows
  | .positional columnNames rows => rows.map fun row => .ofList (columnNames.zip row)

/-- A connection to the event store, by what its driver offers and answers to `PROFILE_SQL`. -/
inductive Connection (F : Type) where
  /-- The method `fetch` returns the rows. -/
  | fetch (answer : ProfileQuery F)
  /-- The method `fetch` returns something that is to be awaited for the rows. -/
  | fetchAwaitable (answer : ProfileQuery F)
  /-- There is no method `fetch`, and a cursor fetches the rows. -/
  | cursor (fetchall : String → DateTime → Except PyError (CursorRows F))

/-- Fetch the rows, given whether an event loop is running. -/
def fetchRows (loopRuns : Bool) : Connection F → ProfileQuery F
  -- The rows that a driver's own method returns are taken as they are.
  | .fetch answer => answer
  | .fetchAwaitable answer => fun userId since =>
    if loopRuns then
      .error (.runtimeError "build_user_profile cannot await fetch in a running event loop")
    else answer userId since
  -- Only the rows of a cursor are converted to dicts.
  | .cursor fetchall => fun userId since => (fetchall userId since).map fun rows => rows.mappings.map .dict

end Absm
