import Absm.Ingest.PlainRuntime
import Absm.Proofs.Features.Aggregates
import Absm.Proofs.Ingest.AcceptedPayloads
import Absm.Storage.TimescaledbWriter

/-! What remains of an event on its way through the event store, and of the profile made from it. -/

namespace Absm

variable {F : Type}

/-! ### Writing and reading -/

/-- The row that is stored for an event. -/
def eventRow (event : Event F) : StoredRow F :=
  -- As the query selects it.
  insertRow (insertRecord event)

/-- The event without the fields that the writer leaves out. -/
def stripped (event : Event F) : Event F :=
  -- What the writer does not store is gone.
  { event with ip := none, email := none, sessionDurationS := none, bytesOut := none }

/-- Attempts that end in success have stored all records. -/
theorem attemptInsert_ok {records : List (Uuid × DateTime × String)} {outcome : Nat → InsertOutcome}
    {table : List (StoredRow F)} {left attempt : Nat} {delay : ℚ} {slept : List ℚ}
    (returned : (attemptInsert records outcome table left attempt delay slept).outcome = .ok ()) :
    (attemptInsert records outcome table left attempt delay slept).table =
      table ++ records.map insertRow := by
  -- A failed attempt has stored nothing, so the last one adds the records once.
  induction left generalizing attempt delay slept with
  | zero =>
    unfold attemptInsert at returned ⊢
    cases result : outcome attempt with
    | stores => rfl
    | postgresError => simp [result] at returned
    | raises error => simp [result] at returned
  | succ left ih =>
    unfold attemptInsert at returned ⊢
    cases result : outcome attempt with
    | stores => rfl
    | postgresError =>
      simp only [result] at returned ⊢
      exact ih returned
    | raises error => simp [result] at returned

/-- A batch that is written has added the rows of its events. -/
theorem writeBatch_ok {events : List (Event F)} {outcome : Nat → InsertOutcome}
    {table : List (StoredRow F)} (returned : (writeBatch events outcome table).outcome = .ok ()) :
    (writeBatch events outcome table).table = table ++ events.map eventRow := by
  -- The rows are built before the first attempt, and all attempts use them.
  unfold writeBatch at returned ⊢
  split
  case isTrue empty => simp [empty]
  case isFalse nonempty =>
    rw [if_neg nonempty] at returned
    rw [attemptInsert_ok returned, List.map_map]
    rfl

/-- Batches that are written have added the rows of all their events. -/
theorem writeBatches_eq_some {batches : List (List (Event F) × (Nat → InsertOutcome))}
    {before after : List (StoredRow F)} (written : writeBatches batches before = some after) :
    after = before ++ (batches.flatMap Prod.fst).map eventRow := by
  -- Every batch puts its own rows behind those of the batches before.
  induction batches generalizing before with
  | nil =>
    cases written
    simp
  | cons batch batches ih =>
    obtain ⟨events, outcome⟩ := batch
    unfold writeBatches at written
    split at written
    case h_1 returned =>
      rw [ih written, writeBatch_ok returned]
      simp
    case h_2 => cases written

/-- The columns of a selected row are those of the models. -/
theorem selectRow_keys (row : StoredRow F) : (selectRow row).keys = modelFields := by
  -- The column names are distinct, so none overwrites another.
  have distinct : modelFields.Nodup := by decide
  rw [Dict.keys, selectRow, Dict.ofList_entries (by exact distinct)]
  rfl

/-- The stored row of an event is valid, and it is read as the stripped event. -/
theorem coerceEvent_eventRow (runtime : Runtime F) (event : Event F) :
    coerceEvent runtime (selectRow (eventRow event)) = some (stripped event) := by
  -- Identifier, time and literal are validated as they are, and the rest is missing.
  have type : (selectRow (eventRow event)).get? "event_type" =
      some (.json (.str event.eventType.text)) := by
    simp [selectRow, Dict.ofList, Dict.get?_set, eventRow, insertRow, insertRecord]
  rw [coerceEvent, type]
  simp only [Option.getD_some, Runtime.str, lower_eventType, lookup_eventType, Option.bind_eq_bind,
    Option.bind_some, modelValidate, selectRow_keys, type]
  simp [selectRow, Dict.ofList, Dict.get?_set, eventRow, insertRow, insertRecord, nullable, guard,
    literalText, validateOptional, Value.isNone, stripped]

/-- The scrubbed events that a profile is built from are the stripped ones, in the store's order. -/
theorem scrubRows_stored (runtime : Runtime F) (digests : Digests) {others : List (StoredRow F)}
    {events : List (Event F)} {query : ProfileQuery F} {userId : Uuid} {userText : String}
    {since : DateTime} (foreign : ∀ row ∈ others, row.userId ≠ userId)
    (own : ∀ event ∈ events, event.userId = userId)
    (inside : ∀ event ∈ events, since.clock ≤ event.timestamp.clock)
    (answers : Answers (others ++ events.map eventRow) query userId userText) :
    ∃ rows, query userText since = .ok rows ∧
      (scrubRows runtime digests rows).Perm (events.map fun event => scrub digests (stripped event)) := by
  -- The query leaves out the rows of other users and none of this user's.
  obtain ⟨rows, perm, _, answered⟩ := answers since
  have selected : (others ++ events.map eventRow).filter
      (fun row => row.userId = userId ∧ since.clock ≤ row.timestamp.clock) = events.map eventRow := by
    rw [List.filter_append, List.filter_eq_nil_iff.mpr fun row member => by
      simp [foreign row member], List.nil_append, List.filter_eq_self.mpr]
    intro row member
    obtain ⟨event, listed, rfl⟩ := List.mem_map.mp member
    exact decide_eq_true ⟨own event listed, inside event listed⟩
  rw [selected] at perm
  refine ⟨_, answered, ?_⟩
  have read : ((events.map eventRow).map selectRow).filterMap (coerceEvent runtime) =
      events.map stripped := by
    rw [List.map_map, List.filterMap_map, ← List.filterMap_eq_map]
    exact List.filterMap_congr fun event _ => coerceEvent_eventRow runtime event
  have scrubbed := ((perm.map selectRow).filterMap (coerceEvent runtime)).map (scrub digests)
  rw [read, List.map_map] at scrubbed
  rw [scrubRows_dicts]
  exact scrubbed

/-! ### Aggregating -/

/-- Events in UTC. -/
def AllUtc (events : List (ScrubbedEvent F)) : Prop :=
  -- The driver hands times back in UTC.
  ∀ event ∈ events, event.timestamp.tzinfo = .utc

private theorem latest_of_utc {first : DateTime} {times : List DateTime}
    (utc : ∀ time ∈ first :: times, time.tzinfo = .utc) :
    ∃ best, DateTime.latest first times = .ok best ∧ best ∈ first :: times ∧
      ∀ time ∈ first :: times, time.clock ≤ best.clock := by
  -- All are aware, and none of the offsets changes.
  have kinds := fun time member => (DateTime.aware_of_utc (utc time member)).1
  obtain ⟨best, found⟩ := DateTime.latest_of_aware first times fun time member => by
    rw [kinds time (List.mem_cons_of_mem _ member), kinds first (List.mem_cons_self ..)]
  exact ⟨best, found, (DateTime.latest_eq_ok found).1,
    DateTime.latest_upper (fun time member => (DateTime.aware_of_utc (utc time member)).2) found⟩

/-- Events in UTC have a latest one, and the others have the same one in any order. -/
theorem latest_perm {event other : ScrubbedEvent F} {events others : List (ScrubbedEvent F)}
    (utc : AllUtc (event :: events)) (perm : ((other :: others).map ScrubbedEvent.timestamp).Perm
      ((event :: events).map ScrubbedEvent.timestamp)) :
    ∃ reference, DateTime.latest event.timestamp (events.map ScrubbedEvent.timestamp) = .ok reference ∧
      DateTime.latest other.timestamp (others.map ScrubbedEvent.timestamp) = .ok reference := by
  -- Each of the two latest times is among the others, so neither is later.
  have zones : ∀ time ∈ (event :: events).map ScrubbedEvent.timestamp, time.tzinfo = .utc := by
    intro time member
    obtain ⟨found, listed, rfl⟩ := List.mem_map.mp member
    exact utc found listed
  have otherZones : ∀ time ∈ (other :: others).map ScrubbedEvent.timestamp,
      time.tzinfo = .utc := fun time member => zones time (perm.mem_iff.mp member)
  simp only [List.map_cons] at perm zones otherZones
  obtain ⟨first, firstFound, firstIn, firstUpper⟩ := latest_of_utc zones
  obtain ⟨second, secondFound, secondIn, secondUpper⟩ := latest_of_utc otherZones
  have same : first.clock = second.clock :=
    le_antisymm (secondUpper _ (perm.mem_iff.mpr firstIn)) (firstUpper _ (perm.mem_iff.mp secondIn))
  obtain rfl := DateTime.utc_ext (zones _ firstIn) (otherZones _ secondIn) same
  exact ⟨first, firstFound, secondFound⟩

/-- An event that counts for the hours of the day only. -/
def OnlyHour (event : ScrubbedEvent F) : Prop :=
  -- No duration, no amount and no address.
  event.sessionDurationS = none ∧ event.bytesOut = none ∧ truthyText event.ipHmac = none

/-- Events that count for the hours only have nothing else to summarize. -/
theorem onlyHour_iff {events : List (ScrubbedEvent F)} :
    (∀ event ∈ events, OnlyHour event) ↔
      (durationsOf events).length = 0 ∧ (bytesOf events).length = 0 ∧ (addressesOf events).length = 0 := by
  -- A list of collected values is empty when no event has one.
  simp only [durationsOf, bytesOf, addressesOf, List.length_eq_zero_iff, List.dedup_eq_nil,
    List.filterMap_eq_nil_iff, OnlyHour]
  constructor
  · intro only
    exact ⟨fun event member => (only event member).1, fun event member => (only event member).2.1,
      fun event member => (only event member).2.2⟩
  · intro nothing event member
    exact ⟨nothing.1 event member, nothing.2.1 event member, nothing.2.2 event member⟩

variable [Statistics F]

/-- The number that an hour of the day is converted to. -/
def hourValue (hour : Int) : F :=
  -- The conversion of an hour never fails.
  (Statistics.ofInt hour).toOption.getD (Statistics.ofCount 0)

variable [LawfulStatistics F]

/-- The hour of a datetime is an hour of the day. -/
theorem hour_range (time : DateTime) : 0 ≤ time.hour ∧ time.hour < 24 := by
  -- Hours since the start of year 1 are counted modulo the hours of a day.
  unfold DateTime.hour
  omega

/-- An hour of the day is converted to its value. -/
theorem ofInt_hourValue {hour : Int} (range : 0 ≤ hour ∧ hour < 24) :
    (Statistics.ofInt hour : Except PyError F) = .ok (hourValue hour) := by
  -- An hour is converted without an error.
  obtain ⟨value, converted⟩ := LawfulStatistics.ofInt_hour (F := F) range.1 range.2
  rw [hourValue, converted]
  rfl

/-- The hours of some events are converted to their values. -/
theorem mapM_hours {events : List (ScrubbedEvent F)}
    (ranges : ∀ event ∈ events, 0 ≤ event.loginHour ∧ event.loginHour < 24) :
    (events.mapM fun event => (Statistics.ofInt event.loginHour : Except PyError F)) =
      .ok (events.map fun event => hourValue event.loginHour) := by
  -- Each hour is in range, so each one is converted.
  induction events with
  | nil => rfl
  | cons event events ih =>
    rw [List.mapM_cons, ofInt_hourValue (ranges event (by simp)),
      ih fun other member => ranges other (List.mem_cons_of_mem _ member)]
    rfl

variable [OfScientific F]

omit [LawfulStatistics F] in
/-- A summary does not depend on the order of the values. -/
theorem stats_perm [LawfulStatistics F] {values others : List F} (perm : values.Perm others) :
    stats values = stats others := by
  -- Length, mean and deviation do not depend on the order.
  simp only [stats, perm.length_eq, LawfulStatistics.fmean_perm perm,
    LawfulStatistics.pstdev_perm perm]

/-- Hours of the day have a summary. -/
theorem stats_hours (hours : List Int) (ranges : ∀ hour ∈ hours, 0 ≤ hour ∧ hour < 24) :
    ∃ summary, stats (hours.map fun hour => (hourValue hour : F)) = .ok summary := by
  -- No hours are summarized by zeros, one hour by itself, more by mean and deviation.
  by_cases empty : hours = []
  · exact ⟨_, by rw [empty]; rfl⟩
  · have nonempty : hours.map (fun hour => (hourValue hour : F)) ≠ [] := by simpa using empty
    obtain ⟨⟨mean, averaged⟩, ⟨std, deviated⟩⟩ := LawfulStatistics.hours_summary nonempty (by
      intro value member
      obtain ⟨hour, listed, rfl⟩ := List.mem_map.mp member
      exact ⟨hour, (ranges hour listed).1, (ranges hour listed).2, ofInt_hourValue (ranges hour listed)⟩)
    by_cases several : 1 < (hours.map fun hour => (hourValue hour : F)).length
    · exact ⟨_, by simp only [stats, List.length_eq_zero_iff, if_neg nonempty, averaged, ok_bind,
        if_pos several, deviated]; rfl⟩
    · exact ⟨_, by simp only [stats, List.length_eq_zero_iff, if_neg nonempty, averaged, ok_bind,
        if_neg several]; rfl⟩

/-- The hours of the day of the events in a window. -/
def hoursWithin (reference : DateTime) (duration : Int) (events : List (Event F)) : List Int :=
  -- The hours of the events before scrubbing.
  (events.filter fun event => inWindow reference duration event.timestamp).map fun event =>
    event.timestamp.hour

/-- The features of a window of events that count for the hours only. -/
def hourFeatures (window : String) (hours : List Int) (features : Dict String F) :
    Except PyError (Dict String F) :=
  -- The other metrics are zero.
  (stats (hours.map fun hour => (hourValue hour : F))).map fun summary =>
    setWindow window summary ⟨0.0, 0.0, 0⟩ ⟨0.0, 0.0, 0⟩ 0 features

/-- Events that count for the hours only make features of their hours. -/
theorem windowFeatures_onlyHour {window : String} {inside : List (ScrubbedEvent F)}
    (only : ∀ event ∈ inside, OnlyHour event)
    (ranges : ∀ event ∈ inside, 0 ≤ event.loginHour ∧ event.loginHour < 24)
    (features : Dict String F) :
    windowFeatures window inside features =
      hourFeatures window (inside.map ScrubbedEvent.loginHour) features := by
  -- Three of the four summaries are those of nothing.
  obtain ⟨durations, bytes, addresses⟩ := onlyHour_iff.mp only
  rw [List.length_eq_zero_iff] at durations bytes
  obtain ⟨summary, read⟩ := stats_hours (F := F) (inside.map ScrubbedEvent.loginHour) (by
    intro hour member
    obtain ⟨event, listed, rfl⟩ := List.mem_map.mp member
    exact ranges event listed)
  have hours := mapM_hours ranges
  rw [hourFeatures, read]
  rw [List.map_map] at read
  refine windowFeatures_eq_ok.mpr ⟨_, [], summary, ⟨0.0, 0.0, 0⟩, ⟨0.0, 0.0, 0⟩, hours, ?_, read, ?_,
    rfl, ?_⟩
  · rw [bytes]
    rfl
  · rw [durations]
    rfl
  · rw [addresses]

/-- The features of all windows when only the hours of the day count. -/
def hourlyFeatures (reference : DateTime) (events : List (Event F)) : Except PyError (Dict String F) := do
  -- The windows in their order.
  let features ← hourFeatures "1h" (hoursWithin reference hourMicros events) .empty
  let features ← hourFeatures "24h" (hoursWithin reference (24 * hourMicros) events) features
  hourFeatures "7d" (hoursWithin reference (7 * dayMicros) events) features

omit [LawfulStatistics F] in
/-- Features of hours do not depend on the order of the hours. -/
theorem hourFeatures_perm [LawfulStatistics F] {window : String} {hours others : List Int}
    (perm : hours.Perm others) (features : Dict String F) :
    hourFeatures window hours features = hourFeatures window others features := by
  -- The summary of the hours is the same.
  rw [hourFeatures, hourFeatures, stats_perm (perm.map _)]

/-- Features of hours of the day are returned. -/
theorem hourFeatures_returns (window : String) {hours : List Int}
    (ranges : ∀ hour ∈ hours, 0 ≤ hour ∧ hour < 24) (features : Dict String F) :
    ∃ result, hourFeatures window hours features = .ok result := by
  -- Hours of a day are always summarized.
  obtain ⟨summary, read⟩ := stats_hours (F := F) hours ranges
  exact ⟨_, by rw [hourFeatures, read]; rfl⟩

omit [Statistics F] [LawfulStatistics F] [OfScientific F] in
/-- The hours of events are hours of the day. -/
theorem hoursWithin_range (reference : DateTime) (duration : Int) (events : List (Event F)) :
    ∀ hour ∈ hoursWithin reference duration events, 0 ≤ hour ∧ hour < 24 := by
  -- Every hour is the hour of some timestamp.
  intro hour member
  obtain ⟨event, _, rfl⟩ := List.mem_map.mp member
  exact hour_range event.timestamp

/-- The features of all windows of hours are returned. -/
theorem hourlyFeatures_returns (reference : DateTime) (events : List (Event F)) :
    ∃ features : Dict String F, hourlyFeatures reference events = .ok features := by
  -- The three windows are filled one after another.
  obtain ⟨hourly, hourlyRead⟩ := hourFeatures_returns (F := F) "1h"
    (hoursWithin_range reference hourMicros events) .empty
  obtain ⟨daily, dailyRead⟩ := hourFeatures_returns "24h"
    (hoursWithin_range reference (24 * hourMicros) events) hourly
  obtain ⟨weekly, weeklyRead⟩ := hourFeatures_returns "7d"
    (hoursWithin_range reference (7 * dayMicros) events) daily
  exact ⟨weekly, by rw [hourlyFeatures, hourlyRead, ok_bind, dailyRead, ok_bind, weeklyRead]⟩

omit [Statistics F] [LawfulStatistics F] [OfScientific F] in
/-- A permutation of the scrubbed forms of some events has their hours, in some order. -/
theorem recent_hours {form : Event F → ScrubbedEvent F} {events : List (Event F)}
    {scrubbed : List (ScrubbedEvent F)}
    (times : ∀ event, (form event).timestamp = event.timestamp)
    (hours : ∀ event, (form event).loginHour = event.timestamp.hour)
    (perm : scrubbed.Perm (events.map form)) (reference : DateTime) (duration : Int) :
    ((recent reference duration scrubbed).map ScrubbedEvent.loginHour).Perm
      (hoursWithin reference duration events) := by
  -- The window looks at the time of an event, which is the same in both forms.
  have same : (recent reference duration (events.map form)).map ScrubbedEvent.loginHour =
      hoursWithin reference duration events := by
    simp only [recent, hoursWithin, List.filter_map, List.map_map]
    have forms : ((fun event : ScrubbedEvent F => inWindow reference duration event.timestamp) ∘ form) =
        fun event => inWindow reference duration event.timestamp := by
      funext event
      simp [times]
    rw [forms]
    exact List.map_congr_left fun event _ => hours event
  exact same ▸ (perm.filter _).map _

/-- Where only the hours count, the features are those of the hours. -/
theorem recentFeatures_onlyHour {form : Event F → ScrubbedEvent F} {events : List (Event F)}
    {scrubbed : List (ScrubbedEvent F)}
    (times : ∀ event, (form event).timestamp = event.timestamp)
    (hours : ∀ event, (form event).loginHour = event.timestamp.hour)
    (perm : scrubbed.Perm (events.map form)) {reference : DateTime} (nest : WindowsNest reference scrubbed)
    (only : ∀ event ∈ recent reference (7 * dayMicros) scrubbed, OnlyHour event) :
    recentFeatures reference scrubbed = hourlyFeatures reference events := by
  -- The shorter windows hold some of the events of the longest one.
  have ranges : ∀ event ∈ scrubbed, 0 ≤ event.loginHour ∧ event.loginHour < 24 := by
    intro event member
    obtain ⟨original, _, rfl⟩ := List.mem_map.mp (perm.mem_iff.mp member)
    rw [hours]
    exact hour_range original.timestamp
  have windowed : ∀ window ∈ windows, ∀ features : Dict String F,
      windowFeatures window.1 (recent reference window.2 scrubbed) features =
        hourFeatures window.1 (hoursWithin reference window.2 events) features := by
    intro window windowIn features
    rw [windowFeatures_onlyHour
      (fun event member => only event ((nest.recent_sublist window windowIn).subset member))
      (fun event member => ranges event (List.mem_of_mem_filter member)),
      hourFeatures_perm (recent_hours times hours perm reference window.2)]
  simp only [windows, List.forall_mem_cons] at windowed
  obtain ⟨hourly, daily, weekly, -⟩ := windowed
  simp only [recentFeatures, hourlyFeatures, hourly, daily, weekly]

omit [LawfulStatistics F] in
/-- The counts of the longest window are the numbers of values in it. -/
theorem recentFeatures_counts {reference : DateTime} {events : List (ScrubbedEvent F)}
    {features : Dict String F} (returned : recentFeatures reference events = .ok features) :
    features.get? "session_duration_s_7d_count" =
        some (Statistics.ofCount (durationsOf (recent reference (7 * dayMicros) events)).length) ∧
      features.get? "bytes_out_7d_count" =
        some (Statistics.ofCount (bytesOf (recent reference (7 * dayMicros) events)).length) ∧
      features.get? "unique_ip_count_7d_count" =
        some (Statistics.ofCount (addressesOf (recent reference (7 * dayMicros) events)).length) := by
  -- The counts are stored as they are, under keys that nothing else overwrites.
  obtain ⟨hourly, _, returned⟩ := bind_eq_ok.mp returned
  obtain ⟨daily, _, returned⟩ := bind_eq_ok.mp returned
  obtain ⟨hours, bytes, first, second, third, _, bytesRead, _, secondRead, thirdRead, rfl⟩ :=
    windowFeatures_eq_ok.mp returned
  rw [← length_of_mapM bytesRead, ← stats_count secondRead, ← stats_count thirdRead]
  simp [setWindow, setStats, Dict.get?_set]

/-! ### The round trip -/

/-- An event without the fields that the writer leaves out and the aggregates look at. -/
def Event.Bare (event : Event F) : Prop :=
  -- Nothing but the columns that are stored.
  event.sessionDurationS = none ∧ event.bytesOut = none ∧ truthyText event.ip = none

/-- The events of the last week, if it starts in year 1 or later, have nothing for the store to drop. -/
def NothingDropped (events : List (Event F)) : Prop :=
  -- For every newest event, and for the events of its week.
  ∀ newest ∈ events, (∀ event ∈ events, event.timestamp.clock ≤ newest.timestamp.clock) →
    7 * dayMicros ≤ newest.timestamp.micros → ∀ event ∈ events,
      newest.timestamp.clock - 7 * dayMicros ≤ event.timestamp.clock → event.Bare

omit [Statistics F] [LawfulStatistics F] [OfScientific F] in
/-- A scrubbed event counts for the hours only when the event has no other field that counts. -/
theorem onlyHour_scrub (digests : Digests) (event : Event F) :
    OnlyHour (scrub digests event) ↔ event.Bare := by
  -- The digest of an address is a text, too.
  have address : truthyText (scrub digests event).ipHmac = none ↔ truthyText event.ip = none := by
    show truthyText ((truthyText event.ip).map _) = none ↔ _
    cases truthyText event.ip with
    | none => simp [truthyText]
    | some ip => simp [truthyText, Option.filter, digests.hmacSha256_ne_empty]
  rw [OnlyHour, Event.Bare, address]
  rfl

omit [Statistics F] [LawfulStatistics F] [OfScientific F] in
/-- A stripped event counts for the hours only. -/
theorem onlyHour_stripped (digests : Digests) (event : Event F) :
    OnlyHour (scrub digests (stripped event)) :=
  -- The fields are gone, so scrubbing finds none.
  (onlyHour_scrub digests (stripped event)).mpr ⟨rfl, rfl, rfl⟩

omit [Statistics F] [LawfulStatistics F] [OfScientific F] in
/-- Only the hours of the last week count exactly when the events of that week have nothing else. -/
theorem onlyHour_recent_iff (digests : Digests) (reference : DateTime) (events : List (Event F)) :
    (∀ event ∈ recent reference (7 * dayMicros) (events.map (scrub digests)), OnlyHour event) ↔
      ∀ event ∈ events, inWindow reference (7 * dayMicros) event.timestamp → event.Bare := by
  -- Scrubbing keeps the timestamps, so both sides speak of the same events.
  constructor
  · intro all event member inside
    exact (onlyHour_scrub digests event).mp (all _ (List.mem_filter.mpr
      ⟨List.mem_map_of_mem member, inside⟩))
  · intro all event member
    obtain ⟨listed, inside⟩ := List.mem_filter.mp member
    obtain ⟨original, found, rfl⟩ := List.mem_map.mp listed
    exact (onlyHour_scrub digests original).mpr (all original found inside)

/-- Of two lists with the same features, either both have only hours that count or neither has. -/
theorem onlyHour_of_same {reference : DateTime} {stored events : List (ScrubbedEvent F)}
    {features : Dict String F} (storedRead : recentFeatures reference stored = .ok features)
    (read : recentFeatures reference events = .ok features)
    (only : ∀ event ∈ recent reference (7 * dayMicros) stored, OnlyHour event) :
    ∀ event ∈ recent reference (7 * dayMicros) events, OnlyHour event := by
  -- The counts of the longest window tell whether anything but the hours was there.
  obtain ⟨durations, bytes, addresses⟩ := recentFeatures_counts storedRead
  obtain ⟨otherDurations, otherBytes, otherAddresses⟩ := recentFeatures_counts read
  obtain ⟨noDurations, noBytes, noAddresses⟩ := onlyHour_iff.mp only
  rw [noDurations] at durations
  rw [noBytes] at bytes
  rw [noAddresses] at addresses
  refine onlyHour_iff.mpr ⟨?_, ?_, ?_⟩
  · exact (LawfulStatistics.ofCount_injective
      (Option.some.inj (durations.symm.trans otherDurations))).symm
  · exact (LawfulStatistics.ofCount_injective (Option.some.inj (bytes.symm.trans otherBytes))).symm
  · exact (LawfulStatistics.ofCount_injective
      (Option.some.inj (addresses.symm.trans otherAddresses))).symm

/-- When the last week starts in year 1 or later, the features of the stripped events are those of
the events exactly when nothing was dropped in that week. -/
theorem recentFeatures_stored_iff (digests : Digests) {reference : DateTime}
    (constant : reference.tzinfo.Constant) (fits : 7 * dayMicros ≤ reference.micros)
    {events : List (Event F)} {stored : List (ScrubbedEvent F)}
    (perm : stored.Perm (events.map fun event => scrub digests (stripped event))) :
    (recentFeatures reference stored).toOption =
        (recentFeatures reference (events.map (scrub digests))).toOption ↔
      ∀ event ∈ events, inWindow reference (7 * dayMicros) event.timestamp → event.Bare := by
  have only : ∀ event ∈ recent reference (7 * dayMicros) stored, OnlyHour event := by
    intro event member
    obtain ⟨original, _, rfl⟩ := List.mem_map.mp (perm.mem_iff.mp (List.mem_of_mem_filter member))
    exact onlyHour_stripped digests original
  have nest : ∀ events : List (ScrubbedEvent F), WindowsNest reference events :=
    windowsNest_of_constant constant fits
  -- What is stored has hours only, so its features are those of the hours and are returned.
  have storedHours : recentFeatures reference stored = hourlyFeatures reference events :=
    recentFeatures_onlyHour (fun _ => rfl) (fun _ => rfl) perm (nest stored) only
  rw [← onlyHour_recent_iff digests]
  constructor
  · intro same
    obtain ⟨features, returned⟩ := hourlyFeatures_returns (F := F) reference events
    rw [storedHours, returned] at same
    exact onlyHour_of_same (storedHours.trans returned) (toOption_eq_some.mp same.symm) only
  · intro all
    rw [storedHours,
      recentFeatures_onlyHour (fun _ => rfl) (fun _ => rfl) (List.Perm.refl _) (nest _) all]

omit [Statistics F] [LawfulStatistics F] [OfScientific F] in
/-- Whether anything is dropped is decided at the latest of the timestamps. -/
theorem nothingDropped_iff {events : List (Event F)} {latest : Event F}
    (utc : ∀ event ∈ events, event.timestamp.tzinfo = .utc) (listed : latest ∈ events)
    (upper : ∀ event ∈ events, event.timestamp.clock ≤ latest.timestamp.clock) :
    NothingDropped events ↔ (7 * dayMicros ≤ latest.timestamp.micros → ∀ event ∈ events,
      latest.timestamp.clock - 7 * dayMicros ≤ event.timestamp.clock → event.Bare) := by
  -- In one time zone all the latest events have the same timestamp.
  constructor
  · exact fun nothing => nothing latest listed upper
  · intro nothing newest member most
    have same : newest.timestamp = latest.timestamp :=
      DateTime.utc_ext (utc newest member) (utc latest listed)
        (le_antisymm (upper newest member) (most latest listed))
    rw [same]
    exact nothing

omit [LawfulStatistics F] in
/-- Nothing is computed when the last week would start before year 1. -/
theorem computeAggregates_early {head : ScrubbedEvent F} {tail : List (ScrubbedEvent F)}
    {reference : DateTime}
    (newest : DateTime.latest head.timestamp (tail.map ScrubbedEvent.timestamp) = .ok reference)
    (early : ¬ 7 * dayMicros ≤ reference.micros) :
    (computeAggregates (head :: tail)).toOption = none := by
  -- A result would have subtracted a week from the reference time.
  cases computed : computeAggregates (head :: tail) with
  | error error => rfl
  | ok features =>
    obtain ⟨again, found, fits, _⟩ := computeAggregates_eq_ok computed
    obtain rfl := Except.ok.inj (newest.symm.trans found)
    exact absurd fits early

/-- The features of the stripped events are those of the events exactly when nothing was dropped. -/
theorem computeAggregates_stored_iff (digests : Digests) {events : List (Event F)}
    (utc : ∀ event ∈ events, event.timestamp.tzinfo = .utc) {stored : List (ScrubbedEvent F)}
    (perm : stored.Perm (events.map fun event => scrub digests (stripped event))) :
    (computeAggregates stored).toOption =
        (computeAggregates (events.map (scrub digests))).toOption ↔ NothingDropped events := by
  cases events with
  | nil =>
    obtain rfl := perm.eq_nil
    simp [NothingDropped]
  | cons first rest =>
    -- Both lists have the same timestamps, and so the same reference time.
    obtain ⟨other, others, rfl⟩ := List.exists_cons_of_length_pos (by rw [perm.length_eq]; simp)
    have times : ((other :: others).map ScrubbedEvent.timestamp).Perm
        (((first :: rest).map (scrub digests)).map ScrubbedEvent.timestamp) := by
      have mapped := perm.map ScrubbedEvent.timestamp
      rw [List.map_map] at mapped ⊢
      exact mapped
    have scrubbedUtc : AllUtc ((first :: rest).map (scrub digests)) := by
      intro scrubbed member
      obtain ⟨original, listed, rfl⟩ := List.mem_map.mp member
      exact utc original listed
    rw [List.map_cons] at times scrubbedUtc
    obtain ⟨reference, found, storedFound⟩ := latest_perm scrubbedUtc times
    -- The reference time is the timestamp of one of the events.
    have zones : ∀ time ∈ (scrub digests first).timestamp :: (rest.map (scrub digests)).map
        ScrubbedEvent.timestamp, time.tzinfo.Constant := by
      rw [← List.map_cons]
      intro time member
      obtain ⟨event, listed, rfl⟩ := List.mem_map.mp member
      exact (DateTime.aware_of_utc (scrubbedUtc event listed)).2
    have referenceIn := (DateTime.latest_eq_ok found).1
    have upper := DateTime.latest_upper zones found
    rw [← List.map_cons, ← List.map_cons, List.map_map] at referenceIn upper
    obtain ⟨latest, latestIn, same⟩ := List.mem_map.mp referenceIn
    obtain rfl : latest.timestamp = reference := same
    have below : ∀ event ∈ first :: rest, event.timestamp.clock ≤ latest.timestamp.clock :=
      fun event member => upper _ (List.mem_map_of_mem member)
    rw [nothingDropped_iff utc latestIn below]
    by_cases late : 7 * dayMicros ≤ latest.timestamp.micros
    · have constant := (DateTime.aware_of_utc (utc latest latestIn)).2
      rw [List.map_cons, computeAggregates_eq storedFound late, computeAggregates_eq found late,
        ← List.map_cons, recentFeatures_stored_iff digests constant late perm]
      simp only [inWindow_of_constant constant (by decide : 0 ≤ 7 * dayMicros) late]
      exact ⟨fun bare _ event member since => bare event member ⟨since, below event member⟩,
        fun bare event member inside => bare late event member inside.1⟩
    · rw [List.map_cons, computeAggregates_early storedFound late, computeAggregates_early found late]
      exact ⟨fun _ early => absurd early late, fun _ => rfl⟩

/-- A profile that is built from stored events has the features of the events themselves exactly when
none of the events of their last week has a duration, an amount of data or an address. -/
theorem buildUserProfile_stored_iff (runtime : Runtime F) (digests : Digests)
    {others table : List (StoredRow F)} {batches : List (List (Event F) × (Nat → InsertOutcome))}
    {query : ProfileQuery F} {userId : Uuid} {userText : String} {now since : DateTime}
    {windowDays : Int} (later : DateTime)
    (foreign : ∀ row ∈ others, row.userId ≠ userId)
    (own : ∀ event ∈ batches.flatMap Prod.fst, event.userId = userId)
    (utc : ∀ event ∈ batches.flatMap Prod.fst, event.timestamp.tzinfo = .utc)
    (written : writeBatches batches others = some table)
    (answers : Answers table query userId userText) (positive : 0 < windowDays)
    (start : now.minus (windowDays * dayMicros) = .ok since)
    (inside : ∀ event ∈ batches.flatMap Prod.fst, since.clock ≤ event.timestamp.clock) :
    ((buildUserProfile runtime digests query now later userText windowDays).map
        UserProfile.features).toOption =
      (computeAggregates ((batches.flatMap Prod.fst).map (scrub digests))).toOption ↔
    NothingDropped (batches.flatMap Prod.fst) := by
  -- What comes back are the stripped events, whose features are those of the hours.
  rw [writeBatches_eq_some written] at answers
  obtain ⟨rows, answered, perm⟩ := scrubRows_stored runtime digests foreign own inside answers
  have built : (buildUserProfile runtime digests query now later userText windowDays).map
      UserProfile.features = computeAggregates (scrubRows runtime digests rows) := by
    rw [buildUserProfile, if_neg (by omega), start, ok_bind, answered, ok_bind]
    cases computeAggregates (scrubRows runtime digests rows) <;> rfl
  rw [built, computeAggregates_stored_iff digests utc perm]

/-- An event at the start of 1970 that sent some bytes, or is silent about them. -/
def firstEvent (bytesOut : Option Int) : Event (ExtFloat ℚ) :=
  -- Only the amount varies.
  ⟨1, .epoch, .auth, none, none, none, bytesOut⟩

/-- The events' store answers with the row of the event, if the window has started. -/
def firstQuery (bytesOut : Option Int) : ProfileQuery (ExtFloat ℚ) := fun _ since =>
  -- The query of the source, over one row.
  .ok ((([eventRow (firstEvent bytesOut)].filter fun row =>
    row.userId = 1 ∧ since.clock ≤ row.timestamp.clock).map selectRow).map .dict)

/-- The query is answered as the store answers it. -/
theorem firstQuery_answers (bytesOut : Option Int) :
    Answers [eventRow (firstEvent bytesOut)] (firstQuery bytesOut) 1 "1" := by
  -- There is one row, so there is nothing to order.
  intro since
  refine ⟨_, List.Perm.refl _, ?_, rfl⟩
  exact (List.pairwise_singleton _ _).sublist List.filter_sublist

/-- The batch of the event is written at the first attempt. -/
theorem firstEvent_written (bytesOut : Option Int) :
    writeBatches [([firstEvent bytesOut], fun _ => .stores)] [] = some [eventRow (firstEvent bytesOut)] :=
  -- The first attempt stores it.
  rfl

/-- One day after the event. -/
def nextDay : DateTime :=
  -- A day after the event.
  .utc (719163 * dayMicros) (by decide)

/-- One day before the event. -/
def dayBefore : DateTime :=
  -- A day before the event, where the window starts.
  .utc (719161 * dayMicros) (by decide)

/-- An event that sent some bytes is counted in its own features, and not in those of the profile. -/
theorem buildUserProfile_stored_bytes :
    writeBatches [([firstEvent (some 1)], fun _ => .stores)] [] = some [eventRow (firstEvent (some 1))] ∧
      Answers [eventRow (firstEvent (some 1))] (firstQuery (some 1)) 1 "1" ∧
      ((buildUserProfile (plainRuntime (ExtFloat ℚ)) constantDigests (firstQuery (some 1)) nextDay nextDay
          "1" 2).map UserProfile.features).toOption ≠
        (computeAggregates ([firstEvent (some 1)].map (scrub constantDigests))).toOption :=
  -- The amount is in the features of the event and not in the stored ones.
  ⟨firstEvent_written _, firstQuery_answers _, by decide +kernel⟩

/-- An event without further fields has the same features before and after the store. -/
theorem buildUserProfile_stored_silent :
    ((buildUserProfile (plainRuntime (ExtFloat ℚ)) constantDigests (firstQuery none) nextDay nextDay "1"
        2).map UserProfile.features).toOption =
      (computeAggregates ([firstEvent none].map (scrub constantDigests))).toOption := by
  -- Without the amount nothing is lost.
  have since : nextDay.minus (2 * dayMicros) = .ok dayBefore := rfl
  refine (buildUserProfile_stored_iff (plainRuntime (ExtFloat ℚ)) constantDigests nextDay (by simp)
    (by decide) (by decide) (firstEvent_written none) (firstQuery_answers none) (by decide) since
    (by decide)).mpr ?_
  intro newest _ _ _ event member _
  obtain rfl := List.mem_singleton.mp member
  exact ⟨rfl, rfl, rfl⟩

end Absm
