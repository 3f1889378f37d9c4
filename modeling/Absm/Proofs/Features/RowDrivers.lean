import Mathlib.Data.List.Forall2
import Absm.Features.RowFetching
import Absm.Ingest.PlainRuntime
import Absm.Proofs.Features.Aggregates

/-! Profiles do not depend on the driver that fetches the rows. -/

namespace Absm

variable {F : Type}

/-! ### Rows in another order of columns -/

/-- Rows with the same values under the same names have the same names. -/
theorem keys_subset_of_get? {row other : QueryRow F} (same : ∀ name, other.get? name = row.get? name)
    {name : String} (member : name ∈ other.keys) : name ∈ row.keys := by
  -- A field that is missing answers nothing to a lookup.
  by_contra missing
  exact Dict.get?_eq_none_iff.mp ((same name).trans (Dict.get?_eq_none_iff.mpr missing)) member

/-- The order of the columns does not matter to the validation. -/
theorem coerceEvent_congr (runtime : Runtime F) {row other : QueryRow F}
    (same : ∀ name, other.get? name = row.get? name) : coerceEvent runtime other = coerceEvent runtime row := by
  -- The validator looks fields up and asks which there are.
  have fields : (∀ field ∈ other.keys, field ∈ modelFields) ↔ ∀ field ∈ row.keys, field ∈ modelFields :=
    ⟨fun known field member => known field (keys_subset_of_get? (fun name => (same name).symm) member),
      fun known field member => known field (keys_subset_of_get? same member)⟩
  simp only [coerceEvent, modelValidate, same, fields]

/-- A row with a column that the models do not know is no event. -/
theorem coerceEvent_of_foreign (runtime : Runtime F) {row : QueryRow F} {name : String}
    (present : name ∈ row.keys) (foreign : name ∉ modelFields) : coerceEvent runtime row = none := by
  -- The models forbid extra fields.
  have forbidden : ¬ ∀ field ∈ row.keys, field ∈ modelFields := fun known => foreign (known name present)
  simp only [coerceEvent, modelValidate, forbidden]
  cases lookupEntry _ eventModelByType <;> rfl

/-! ### Drivers -/

/-- The dict that a row is, if it is one. -/
def FetchedRow.dict? : FetchedRow F → Option (QueryRow F)
  -- A record is no dict.
  | .dict row => some row
  | .record _ => none

/-- The dicts that a driver hands over for a user and the start of the window. -/
inductive HandsOver (rows : List (QueryRow F)) (userId : String) (since : DateTime) : Connection F → Prop where
  /-- They are returned, possibly among records. -/
  | fetch {answer : ProfileQuery F} {fetched : List (FetchedRow F)}
    (answered : answer userId since = .ok fetched) (dicts : fetched.filterMap FetchedRow.dict? = rows) :
    HandsOver rows userId since (.fetch answer)
  /-- They are awaited, possibly among records. -/
  | fetchAwaitable {answer : ProfileQuery F} {fetched : List (FetchedRow F)}
    (answered : answer userId since = .ok fetched) (dicts : fetched.filterMap FetchedRow.dict? = rows) :
    HandsOver rows userId since (.fetchAwaitable answer)
  /-- A cursor fetches mappings. -/
  | keyed {fetchall : String → DateTime → Except PyError (CursorRows F)}
    (answered : fetchall userId since = .ok (.keyed rows)) : HandsOver rows userId since (.cursor fetchall)
  /-- A cursor fetches values, and its description names their columns, in whatever order. -/
  | positional {fetchall : String → DateTime → Except PyError (CursorRows F)} {columnNames : List String}
    {values : List (List (Value F))}
    (answered : fetchall userId since = .ok (.positional columnNames values))
    (described : List.Forall₂ (fun row cells => (columnNames.zip cells).Perm row.entries) rows values) :
    HandsOver rows userId since (.cursor fetchall)

/-- A connection whose rows have to be awaited. -/
def Connection.awaits : Connection F → Bool
  -- Only one kind of driver is awaited.
  | .fetchAwaitable _ => true
  | _ => false

/-- A cursor's rows become dicts. -/
theorem fetchRows_cursor {fetchall : String → DateTime → Except PyError (CursorRows F)} {userId : String}
    {since : DateTime} {rows : CursorRows F} (loopRuns : Bool) (answered : fetchall userId since = .ok rows) :
    fetchRows loopRuns (.cursor fetchall) userId since = .ok (rows.mappings.map .dict) := by
  -- Nothing has to be awaited.
  simp only [fetchRows, answered, Except.map]

/-- Values under the names of their columns make the row that they come from. -/
theorem get?_ofList_zip {columnNames : List String} {cells : List (Value F)} {row : QueryRow F}
    (described : (columnNames.zip cells).Perm row.entries) (name : String) :
    (Dict.ofList (columnNames.zip cells)).get? name = row.get? name := by
  -- The columns have distinct names, so the order does not matter for a lookup.
  have distinct : ((columnNames.zip cells).map Prod.fst).Nodup :=
    (described.map Prod.fst).nodup_iff.mpr row.distinct
  exact Dict.get?_of_perm (by rwa [Dict.ofList_entries distinct]) name

/-- Records are skipped, and dicts are scrubbed as if they were alone. -/
theorem scrubRows_fetched (runtime : Runtime F) (digests : Digests) (fetched : List (FetchedRow F)) :
    scrubRows runtime digests fetched =
      scrubRows runtime digests ((fetched.filterMap FetchedRow.dict?).map .dict) := by
  -- Row by row, what is accepted is accepted from a dict.
  have accepted : ∀ row : FetchedRow F, coerceFetched runtime row = row.dict?.bind (coerceEvent runtime) := by
    intro row
    cases row <;> rfl
  rw [scrubRows_dicts, scrubRows, List.filterMap_filterMap]
  exact congrArg (List.map (scrub digests)) (List.filterMap_congr fun row _ => accepted row)

/-- Rows that are described are validated as the rows that they come from. -/
theorem scrubRows_described (runtime : Runtime F) (digests : Digests) {columnNames : List String}
    {rows : List (QueryRow F)} {values : List (List (Value F))}
    (described : List.Forall₂ (fun row cells => (columnNames.zip cells).Perm row.entries) rows values) :
    scrubRows runtime digests ((CursorRows.positional columnNames values).mappings.map .dict) =
      scrubRows runtime digests (rows.map .dict) := by
  -- Row by row the same events are accepted.
  have coerced : (CursorRows.positional columnNames values).mappings.map (coerceEvent runtime) =
      rows.map (coerceEvent runtime) := by
    induction described with
    | nil => rfl
    | cons first _ ih =>
      exact congrArg₂ List.cons (coerceEvent_congr runtime (get?_ofList_zip first)) ih
  have valid (some : List (QueryRow F)) :
      some.filterMap (coerceEvent runtime) = (some.map (coerceEvent runtime)).filterMap id := by
    rw [List.filterMap_map, Function.id_comp]
  rw [scrubRows_dicts, scrubRows_dicts, valid, valid, coerced]

/-- Rows under a name that the models do not know are all skipped. -/
theorem scrubRows_misnamed (runtime : Runtime F) (digests : Digests) {columnNames : List String}
    {values : List (List (Value F))} {foreign : String} (named : foreign ∈ columnNames)
    (unknown : foreign ∉ modelFields) (full : ∀ cells ∈ values, columnNames.length ≤ cells.length) :
    scrubRows runtime digests ((CursorRows.positional columnNames values).mappings.map .dict) = [] := by
  rw [scrubRows_dicts, List.map_eq_nil_iff, List.filterMap_eq_nil_iff, CursorRows.mappings, List.forall_mem_map]
  intro cells listed
  refine coerceEvent_of_foreign runtime ?_ unknown
  -- The name is paired with a value, and what is assigned to it later does not remove it.
  rw [Dict.mem_keys_ofList, List.map_fst_zip (full cells listed)]
  exact named

variable [Statistics F] [OfScientific F]

/-- A profile has the aggregates of what the fetched rows are scrubbed to. -/
theorem buildUserProfile_fetched (runtime : Runtime F) (digests : Digests) {query : ProfileQuery F}
    {now since : DateTime} (later : DateTime) {userId : String} {windowDays : Int} (positive : 0 < windowDays)
    (start : now.minus (windowDays * dayMicros) = .ok since) {fetched : List (FetchedRow F)}
    (answered : query userId since = .ok fetched) :
    buildUserProfile runtime digests query now later userId windowDays =
      (computeAggregates (scrubRows runtime digests fetched)).map fun features =>
        ⟨userId, windowDays, features, later⟩ := by
  -- A positive window, a start in range and an answer leave the aggregates.
  rw [buildUserProfile, if_neg (by omega), start, ok_bind, answered, ok_bind]
  cases computeAggregates (scrubRows runtime digests fetched) <;> rfl

/-- A row of the store. -/
def aStoredRow : QueryRow (ExtFloat ℚ) :=
  -- In the order of the query's columns.
  .ofList [("user_id", .uuid 1), ("timestamp", .datetime .epoch), ("event_type", .json (.str "auth")),
    ("ip", .none), ("email", .none), ("session_duration_s", .none), ("bytes_out", .json (.int 7))]

/-- Rows under a name that the models do not know are skipped, and the profile is that of a user without
events. -/
theorem buildUserProfile_misnamed (runtime : Runtime F) (digests : Digests)
    {fetchall : String → DateTime → Except PyError (CursorRows F)} (loopRuns : Bool) {now since : DateTime}
    (later : DateTime) {userId : String} {windowDays : Int} (positive : 0 < windowDays)
    (start : now.minus (windowDays * dayMicros) = .ok since) {columnNames : List String}
    {values : List (List (Value F))} (answered : fetchall userId since = .ok (.positional columnNames values))
    {foreign : String} (named : foreign ∈ columnNames) (unknown : foreign ∉ modelFields)
    (full : ∀ cells ∈ values, columnNames.length ≤ cells.length) :
    buildUserProfile runtime digests (fetchRows loopRuns (.cursor fetchall)) now later userId windowDays =
      .ok ⟨userId, windowDays, emptyFeatures, later⟩ := by
  -- Every row has the foreign column, so none is accepted.
  rw [buildUserProfile_fetched runtime digests later positive start (fetchRows_cursor loopRuns answered),
    scrubRows_misnamed runtime digests named unknown full]
  rfl

/-- When all that `fetch` returns are records, as from asyncpg, the profile is that of a user without events. -/
theorem buildUserProfile_records (runtime : Runtime F) (digests : Digests) {answer : ProfileQuery F}
    (loopRuns : Bool) {now since : DateTime} (later : DateTime) {userId : String} {windowDays : Int}
    (positive : 0 < windowDays) (start : now.minus (windowDays * dayMicros) = .ok since)
    {rows : List (QueryRow F)} (answered : answer userId since = .ok (rows.map .record)) :
    buildUserProfile runtime digests (fetchRows loopRuns (.fetch answer)) now later userId windowDays =
      .ok ⟨userId, windowDays, emptyFeatures, later⟩ := by
  -- None of the records is a dict.
  have none : (rows.map FetchedRow.record).filterMap FetchedRow.dict? = [] := by
    rw [List.filterMap_map, List.filterMap_eq_nil_iff]
    exact fun _ _ => rfl
  refine (buildUserProfile_fetched runtime digests later positive start answered).trans ?_
  rw [scrubRows_fetched, none]
  rfl

end Absm
