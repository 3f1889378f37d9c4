import Mathlib.Data.Finset.Card
import Mathlib.Data.List.Forall2
import Absm.Features.ProfileBuilder
import Absm.Ingest.PlainRuntime
import Absm.Proofs.Features.FeatureShape

/-! What a profile tells about addresses: how many different ones there are, and nothing else. -/

namespace Absm

variable {F : Type}

/-! ### Rows that differ in identifiers -/

/-- A connection whose query returns some rows as dicts. -/
def fetching (rows : List (QueryRow F)) : ProfileQuery F :=
  -- The rows do not depend on the user or the start.
  fun _ _ => .ok (rows.map .dict)

/-- A text column of a row: it holds a string or `None`, if the row has it. -/
inductive TextColumn : Option (Value F) → Prop where
  /-- The row has no such column. -/
  | missing : TextColumn none
  /-- The column is `None`. -/
  | null : TextColumn (some .none)
  /-- The column is a string. -/
  | text (value : String) : TextColumn (some (.json (.str value)))

/-- Two address columns of which the second is the first under a renaming of non-empty strings. -/
inductive RenamedColumn (rename : String → String) : Option (Value F) → Option (Value F) → Prop where
  /-- Neither row has the column. -/
  | missing : RenamedColumn rename none none
  /-- Both columns are `None`. -/
  | null : RenamedColumn rename (some .none) (some .none)
  /-- Both columns are the empty string. -/
  | empty : RenamedColumn rename (some (.json (.str ""))) (some (.json (.str "")))
  /-- A non-empty address is renamed. -/
  | text (ip : String) (nonempty : ip ≠ "") :
    RenamedColumn rename (some (.json (.str ip))) (some (.json (.str (rename ip))))

/-- Two rows that agree but for the names of addresses and for mail addresses. -/
structure RenamedRow (rename : String → String) (row other : QueryRow F) : Prop where
  /-- All other columns agree. -/
  columns : ∀ column, column ≠ "ip" → column ≠ "email" → other.get? column = row.get? column
  /-- The address is renamed. -/
  ip : RenamedColumn rename (row.get? "ip") (other.get? "ip")
  /-- The mail address of the first row is any string or `None`. -/
  email : TextColumn (row.get? "email")
  /-- The mail address of the second row is any string or `None`. -/
  otherEmail : TextColumn (other.get? "email")

/-- The address that a row holds, unless it is empty. -/
def rawIp (row : QueryRow F) : Option String :=
  -- Null, missing and empty addresses count as none.
  match row.get? "ip" with
  | some (.json (.str ip)) => truthyText (some ip)
  | _ => none

/-- The latest time of the events that rows are accepted as, as `max` finds it. -/
def newestAccepted (runtime : Runtime F) (rows : List (QueryRow F)) : Option DateTime :=
  match rows.filterMap (coerceEvent runtime) with
  | [] => none
  -- Naive and aware timestamps have no latest one.
  | event :: events => (DateTime.latest event.timestamp (events.map Event.timestamp)).toOption

/-- The rows that are accepted as events of a window that ends at some time. -/
def rowsInside (runtime : Runtime F) (newest : DateTime) (duration : Int) (rows : List (QueryRow F)) :
    List (QueryRow F) :=
  -- Rows that the validator refuses are in no window.
  rows.filter fun row =>
    match coerceEvent runtime row with
    | some event => inWindow newest duration event.timestamp
    | none => false

/-- How many different addresses the accepted rows of a window hold. -/
def distinctIps (runtime : Runtime F) (duration : Int) (rows : List (QueryRow F)) : Nat :=
  -- Counted before anything is hashed.
  match newestAccepted runtime rows with
  | some newest => ((rowsInside runtime newest duration rows).filterMap rawIp).toFinset.card
  | none => 0

/-- Two events that agree but for the name of the address and for the mail address. -/
structure RenamedEvent (rename : String → String) (event other : Event F) : Prop where
  /-- Both happened at the same time. -/
  timestamp : other.timestamp = event.timestamp
  /-- Both sessions were of the same length. -/
  sessionDurationS : other.sessionDurationS = event.sessionDurationS
  /-- In both the same amount of data left. -/
  bytesOut : other.bytesOut = event.bytesOut
  /-- The address is renamed. -/
  ip : truthyText other.ip = (truthyText event.ip).map rename

private theorem truthyText_some (text : String) :
    truthyText (some text) = if text = "" then none else some text := by
  -- The filter keeps what is not empty.
  by_cases empty : text = "" <;> simp [truthyText, Option.filter, empty]

/-- A text column is valid. -/
theorem validateOptional_text (runtime : Runtime F) {column : Option (Value F)}
    (isText : TextColumn column) : ∃ text, validateOptional runtime.validateStr column = some text := by
  -- A string is valid as it is, and `None` stands for nothing.
  cases isText with
  | missing => exact ⟨none, rfl⟩
  | null => exact ⟨none, rfl⟩
  | text value => exact ⟨some value, by simp [validateOptional, Value.isNone]⟩

/-- Renamed address columns are valid, and the texts in them are renamed. -/
theorem validateOptional_renamed (runtime : Runtime F) {rename : String → String}
    (kept : ∀ ip, ip ≠ "" → rename ip ≠ "") {column other : Option (Value F)}
    (renamed : RenamedColumn rename column other) :
    ∃ ip otherIp, validateOptional runtime.validateStr column = some ip ∧
      validateOptional runtime.validateStr other = some otherIp ∧
      truthyText otherIp = (truthyText ip).map rename := by
  -- A non-empty address has a non-empty name.
  cases renamed with
  | missing => exact ⟨none, none, rfl, rfl, rfl⟩
  | null => exact ⟨none, none, rfl, rfl, rfl⟩
  | empty =>
    exact ⟨some "", some "", by simp [validateOptional, Value.isNone],
      by simp [validateOptional, Value.isNone], by simp [truthyText_some]⟩
  | text ip nonempty =>
    exact ⟨some ip, some (rename ip), by simp [validateOptional, Value.isNone],
      by simp [validateOptional, Value.isNone], by simp [truthyText_some, nonempty, kept ip nonempty]⟩

/-- Rows that agree but for identifiers have forbidden columns alike. -/
theorem RenamedRow.forbidden {rename : String → String} {row other : QueryRow F}
    (renamed : RenamedRow rename row other) :
    (∀ field ∈ other.keys, field ∈ modelFields) ↔ ∀ field ∈ row.keys, field ∈ modelFields := by
  -- The two columns that may differ are not forbidden.
  have present : ∀ field, field ∉ modelFields → (field ∈ other.keys ↔ field ∈ row.keys) := by
    intro field unknown
    have same := renamed.columns field (fun equal => unknown (by simp [equal, modelFields]))
      (fun equal => unknown (by simp [equal, modelFields]))
    rw [← not_iff_not, ← Dict.get?_eq_none_iff, ← Dict.get?_eq_none_iff, same]
  constructor
  · intro all field member
    by_contra unknown
    exact unknown (all field ((present field unknown).mpr member))
  · intro all field member
    by_contra unknown
    exact unknown (all field ((present field unknown).mp member))

private theorem rel_bind {α β γ : Type} {relation : β → γ → Prop} (value : Option α) {first : α → Option β}
    {second : α → Option γ} (related : ∀ found, Option.Rel relation (first found) (second found)) :
    Option.Rel relation (value.bind first) (value.bind second) := by
  -- Without a value neither goes on.
  cases value with
  | none => exact .none
  | some found => exact related found

/-- Rows that agree but for identifiers are accepted alike, and so are the events made of them. -/
theorem coerceEvent_renamed (runtime : Runtime F) {rename : String → String}
    (kept : ∀ ip, ip ≠ "" → rename ip ≠ "") {row other : QueryRow F}
    (renamed : RenamedRow rename row other) :
    Option.Rel (RenamedEvent rename) (coerceEvent runtime row) (coerceEvent runtime other) := by
  -- Every check but those of the two identifiers reads the same columns, and those two pass.
  obtain ⟨ip, otherIp, ipValid, otherIpValid, same⟩ :=
    validateOptional_renamed runtime kept renamed.ip
  obtain ⟨email, emailValid⟩ := validateOptional_text runtime renamed.email
  obtain ⟨otherEmail, otherEmailValid⟩ := validateOptional_text runtime renamed.otherEmail
  have columns := fun column notIp notEmail => renamed.columns column notIp notEmail
  simp only [coerceEvent, modelValidate, columns "event_type" (by decide) (by decide),
    columns "user_id" (by decide) (by decide), columns "timestamp" (by decide) (by decide),
    columns "session_duration_s" (by decide) (by decide), columns "bytes_out" (by decide) (by decide),
    ipValid, otherIpValid, emailValid, otherEmailValid, renamed.forbidden, Option.bind_eq_bind,
    Option.bind_some]
  refine rel_bind _ fun model => rel_bind _ fun _ => rel_bind _ fun userId => rel_bind _ fun time =>
    rel_bind _ fun _ => rel_bind _ fun duration => rel_bind _ fun bytes => ?_
  exact .some ⟨rfl, rfl, rfl, same⟩

/-- The address of an accepted event is that of its row. -/
theorem coerceEvent_ip {runtime : Runtime F} {row : QueryRow F} {event : Event F}
    (isText : TextColumn (row.get? "ip")) (accepted : coerceEvent runtime row = some event) :
    truthyText event.ip = rawIp row := by
  -- A string is valid as it is, and `None` stands for no address.
  simp only [coerceEvent, modelValidate, Option.bind_eq_bind, Option.bind_eq_some_iff] at accepted
  obtain ⟨_, _, _, _, _, _, _, _, _, _, ip, valid, _, _, _, _, _, _, built⟩ := accepted
  cases built
  rw [rawIp]
  cases column : row.get? "ip" with
  | none =>
    rw [column] at valid
    cases valid
    rfl
  | some value =>
    rw [column] at valid isText
    cases isText with
    | null =>
      cases valid
      rfl
    | text value =>
      simp only [validateOptional, Value.isNone, Bool.false_eq_true, if_false, Runtime.str_self,
        Option.map_some, Option.some.injEq] at valid
      rw [← valid]

/-- The address column of a renamed row is a text column, and so is that of the row itself. -/
theorem RenamedColumn.isText {rename : String → String} {column other : Option (Value F)}
    (renamed : RenamedColumn rename column other) : TextColumn column ∧ TextColumn other := by
  -- A renaming relates strings with strings.
  cases renamed with
  | missing => exact ⟨.missing, .missing⟩
  | null => exact ⟨.null, .null⟩
  | empty => exact ⟨.text "", .text ""⟩
  | text ip => exact ⟨.text ip, .text (rename ip)⟩

/-! ### Counting addresses -/

/-- The addresses of some events, without empty ones. -/
def rawAddresses (events : List (Event F)) : List String :=
  -- The addresses as the events carry them, duplicates included.
  events.filterMap fun event => truthyText event.ip

private theorem length_dedup_map {α β : Type} [DecidableEq α] [DecidableEq β] {rename : α → β}
    {values : List α} (injective : Set.InjOn rename {value | value ∈ values}) :
    (values.map rename).dedup.length = values.toFinset.card := by
  -- The different names are the image of the different values.
  have image : (values.map rename).toFinset = values.toFinset.image rename := by
    ext name
    simp
  rw [← List.card_toFinset, image]
  exact Finset.card_image_of_injOn fun first firstIn second secondIn =>
    injective (List.mem_toFinset.mp firstIn) (List.mem_toFinset.mp secondIn)

/-- Where the digests tell the addresses apart, as many digests are counted as there are addresses. -/
theorem addressesOf_scrub {digests : Digests} {events : List (Event F)}
    (injective : Set.InjOn (digests.hmacSha256 · digests.hmacKey) {ip | ip ∈ rawAddresses events}) :
    (addressesOf (events.map (scrub digests))).length = (rawAddresses events).toFinset.card := by
  -- A digest is never empty, so every address that counts has one that counts.
  have texts : (events.map (scrub digests)).filterMap (fun event => truthyText event.ipHmac) =
      (rawAddresses events).map (digests.hmacSha256 · digests.hmacKey) := by
    rw [rawAddresses, List.filterMap_map, List.map_filterMap]
    refine List.filterMap_congr fun event _ => ?_
    show truthyText ((truthyText event.ip).map _) = _
    cases truthyText event.ip with
    | none => rfl
    | some ip => simp [truthyText_some, digests.hmacSha256_ne_empty]
  rw [addressesOf, texts, length_dedup_map injective]

/-! ### Two runs -/

/-- Renamed events have renamed addresses, in the same order. -/
theorem rawAddresses_renamed {rename : String → String} {events others : List (Event F)}
    (renamed : List.Forall₂ (RenamedEvent rename) events others) :
    rawAddresses others = (rawAddresses events).map rename := by
  -- Each event contributes an address or none in both lists.
  induction renamed with
  | nil => rfl
  | @cons event other events others same _ ih =>
    simp only [rawAddresses] at ih
    simp only [rawAddresses, List.filterMap_cons, same.ip, ih]
    cases truthyText event.ip <;> simp

private theorem timestamps_renamed {rename : String → String} {events others : List (Event F)}
    (renamed : List.Forall₂ (RenamedEvent rename) events others) :
    others.map Event.timestamp = events.map Event.timestamp := by
  -- A renaming leaves the time of every event alone.
  induction renamed with
  | nil => rfl
  | cons same _ ih => rw [List.map_cons, List.map_cons, same.timestamp, ih]

private theorem values_renamed (digests otherDigests : Digests) {rename : String → String}
    {events others : List (Event F)} (renamed : List.Forall₂ (RenamedEvent rename) events others) :
    (others.map (scrub otherDigests)).map ScrubbedEvent.loginHour =
        (events.map (scrub digests)).map ScrubbedEvent.loginHour ∧
      durationsOf (others.map (scrub otherDigests)) = durationsOf (events.map (scrub digests)) ∧
      bytesOf (others.map (scrub otherDigests)) = bytesOf (events.map (scrub digests)) := by
  -- Scrubbing copies what is summarized, and a renaming leaves it alone.
  induction renamed with
  | nil => exact ⟨rfl, rfl, rfl⟩
  | cons same _ ih =>
    obtain ⟨hours, durations, bytes⟩ := ih
    simp only [durationsOf, bytesOf] at durations bytes
    refine ⟨?_, ?_, ?_⟩
    · simp only [List.map_cons, hours]
      simp only [scrub, same.timestamp]
    · simp only [durationsOf, List.map_cons, List.filterMap_cons, durations]
      simp only [scrub, same.sessionDurationS]
    · simp only [bytesOf, List.map_cons, List.filterMap_cons, bytes]
      simp only [scrub, same.bytesOut]

/-- A window filters renamed events alike, and raises the same errors. -/
theorem windowEvents_renamed (digests otherDigests : Digests) {rename : String → String}
    (start reference : DateTime) {events others : List (Event F)}
    (renamed : List.Forall₂ (RenamedEvent rename) events others) :
    (∃ error, windowEvents start reference (events.map (scrub digests)) = .error error ∧
        windowEvents start reference (others.map (scrub otherDigests)) = .error error) ∨
      ∃ inside otherInside, inside.Sublist events ∧
        List.Forall₂ (RenamedEvent rename) inside otherInside ∧
        windowEvents start reference (events.map (scrub digests)) = .ok (inside.map (scrub digests)) ∧
        windowEvents start reference (others.map (scrub otherDigests)) =
          .ok (otherInside.map (scrub otherDigests)) := by
  -- The comparisons look at timestamps only.
  induction renamed with
  | nil => exact .inr ⟨[], [], .slnil, .nil, rfl, rfl⟩
  | @cons event other events others same _ ih =>
    simp only [List.map_cons, windowEvents]
    have times : (scrub otherDigests other).timestamp = (scrub digests event).timestamp :=
      same.timestamp
    rw [times]
    cases start.le (scrub digests event).timestamp with
    | error error => exact .inl ⟨error, rfl, rfl⟩
    | ok started =>
      simp only [ok_bind]
      cases (if started then (scrub digests event).timestamp.le reference else .ok false :
        Except PyError Bool) with
      | error error => exact .inl ⟨error, rfl, rfl⟩
      | ok inside =>
        rcases ih with ⟨error, first, second⟩ | ⟨kept, otherKept, sublist, rest, first, second⟩
        · exact .inl ⟨error, by rw [first]; rfl, by rw [second]; rfl⟩
        · rw [first, second]
          cases inside with
          | true => exact .inr ⟨event :: kept, other :: otherKept, sublist.cons_cons event,
              .cons same rest, rfl, rfl⟩
          | false => exact .inr ⟨kept, otherKept, sublist.cons event, rest, rfl, rfl⟩

variable [Statistics F] [OfScientific F]

private theorem windowFeatures_congr {window : String} {inside others : List (ScrubbedEvent F)}
    (hours : others.map ScrubbedEvent.loginHour = inside.map ScrubbedEvent.loginHour)
    (durations : durationsOf others = durationsOf inside) (bytes : bytesOf others = bytesOf inside)
    (addresses : (addressesOf others).length = (addressesOf inside).length)
    (features : Dict String F) :
    windowFeatures window others features = windowFeatures window inside features := by
  -- The digests themselves are not stored.
  have converted : ∀ events : List (ScrubbedEvent F),
      (events.mapM fun event => (Statistics.ofInt event.loginHour : Except PyError F)) =
        (events.map ScrubbedEvent.loginHour).mapM Statistics.ofInt := fun events =>
    List.mapM_map.symm
  simp only [durationsOf, bytesOf, addressesOf] at durations bytes addresses
  simp only [windowFeatures, converted, hours, durations, bytes, addresses]

/-- All windows have the same features for renamed events. -/
theorem windowsFeatures_renamed {digests otherDigests : Digests} {rename : String → String}
    (reference : DateTime) {events others : List (Event F)}
    (renamed : List.Forall₂ (RenamedEvent rename) events others)
    (injective : Set.InjOn rename {ip | ip ∈ rawAddresses events})
    (distinct : Set.InjOn (digests.hmacSha256 · digests.hmacKey) {ip | ip ∈ rawAddresses events})
    (otherDistinct :
      Set.InjOn (otherDigests.hmacSha256 · otherDigests.hmacKey) {ip | ip ∈ rawAddresses others})
    (remaining : List (String × Int)) (features : Dict String F) :
    windowsFeatures reference (others.map (scrub otherDigests)) remaining features =
      windowsFeatures reference (events.map (scrub digests)) remaining features := by
  -- Each window holds renamed events, of which there are as many different addresses.
  induction remaining generalizing features with
  | nil => rfl
  | cons window remaining ih =>
    obtain ⟨name, duration⟩ := window
    simp only [windowsFeatures]
    cases reference.minus duration with
    | error error => rfl
    | ok start =>
      simp only [ok_bind]
      rcases windowEvents_renamed digests otherDigests start reference renamed with
        ⟨error, first, second⟩ | ⟨inside, otherInside, sublist, rest, first, second⟩
      · rw [first, second]
        rfl
      · obtain ⟨hours, durations, bytes⟩ := values_renamed digests otherDigests rest
        have listed : ∀ ip ∈ rawAddresses inside, ip ∈ rawAddresses events := fun ip member =>
          (sublist.filterMap fun event => truthyText event.ip).subset member
        have otherListed : ∀ ip ∈ rawAddresses otherInside, ip ∈ rawAddresses others := by
          intro ip member
          rw [rawAddresses_renamed rest] at member
          obtain ⟨original, found, rfl⟩ := List.mem_map.mp member
          rw [rawAddresses_renamed renamed]
          exact List.mem_map_of_mem (listed original found)
        have addresses : (addressesOf (otherInside.map (scrub otherDigests))).length =
            (addressesOf (inside.map (scrub digests))).length := by
          rw [addressesOf_scrub (otherDistinct.mono otherListed),
            addressesOf_scrub (distinct.mono listed), rawAddresses_renamed rest,
            List.card_toFinset, length_dedup_map (injective.mono listed)]
        rw [first, second]
        simp only [ok_bind, windowFeatures_congr hours durations bytes addresses, ih]

/-- Renamed events have the same features. -/
theorem computeAggregates_renamed {digests otherDigests : Digests} {rename : String → String}
    {events others : List (Event F)} (renamed : List.Forall₂ (RenamedEvent rename) events others)
    (injective : Set.InjOn rename {ip | ip ∈ rawAddresses events})
    (distinct : Set.InjOn (digests.hmacSha256 · digests.hmacKey) {ip | ip ∈ rawAddresses events})
    (otherDistinct :
      Set.InjOn (otherDigests.hmacSha256 · otherDigests.hmacKey) {ip | ip ∈ rawAddresses others}) :
    (computeAggregates (others.map (scrub otherDigests)) : Except PyError (Dict String F)) =
      computeAggregates (events.map (scrub digests)) := by
  -- The windows end at the latest timestamp, which is the same.
  have times : ∀ (digests : Digests) (events : List (Event F)),
      (events.map (scrub digests)).map ScrubbedEvent.timestamp = events.map Event.timestamp :=
    fun digests events => by rw [List.map_map]; rfl
  have windowed := fun reference => windowsFeatures_renamed reference renamed injective distinct
    otherDistinct windows .empty
  cases renamed with
  | nil => rfl
  | cons same rest =>
    simp only [List.map_cons] at windowed
    simp only [List.map_cons, computeAggregates, times, timestamps_renamed rest, windowed]
    rw [show (scrub otherDigests _).timestamp = (scrub digests _).timestamp from same.timestamp]

/-! ### What is counted -/

/-- The features of a window tell a number of addresses, without a deviation. -/
structure CountsIps (features : Dict String F) (window : String) (count : Nat) : Prop where
  /-- The number is stored as a mean. -/
  mean : features.get? ("unique_ip_count" ++ "_" ++ window ++ "_mean") =
    some (Statistics.ofCount count)
  /-- The deviation is zero. -/
  std : features.get? ("unique_ip_count" ++ "_" ++ window ++ "_std") = some 0.0
  /-- The number is stored as a count, too. -/
  count : features.get? ("unique_ip_count" ++ "_" ++ window ++ "_count") =
    some (Statistics.ofCount count)

/-- The summaries of accepted rows: of the hours, lengths of sessions and amounts of data of their events,
and of how many different addresses the rows hold. -/
def rowStats (runtime : Runtime F) (rows : List (QueryRow F)) : Except PyError (WindowStats F) := do
  let events := rows.filterMap (coerceEvent runtime)
  -- No digest is looked at.
  let hours ← (events.map fun event => event.timestamp.hour).mapM Statistics.ofInt
  let bytes ← (events.filterMap Event.bytesOut).mapM Statistics.ofInt
  let hours ← stats hours
  let durations ← stats (events.filterMap Event.sessionDurationS)
  let bytes ← stats bytes
  let count := (rows.filterMap rawIp).toFinset.card
  return ⟨hours, durations, bytes, ⟨Statistics.ofCount count, 0.0, count⟩⟩

/-- Features are those of some rows: all zero when no row is accepted, and otherwise the summaries of the
rows inside each window, of which the longest starts in year 1 or later. -/
def RowFeatures (runtime : Runtime F) (rows : List (QueryRow F)) (features : Dict String F) : Prop :=
  -- Either nothing is accepted, or the windows are filled from the rows themselves.
  (rows.filterMap (coerceEvent runtime) = [] ∧ features = emptyFeatures) ∨
  ∃ newest, newestAccepted runtime rows = some newest ∧ 7 * dayMicros ≤ newest.micros ∧
    ∃ summaries : String → WindowStats F,
      (∀ window ∈ windows,
        rowStats runtime (rowsInside runtime newest window.2 rows) = .ok (summaries window.1)) ∧
      features = featuresOf summaries

omit [Statistics F] [OfScientific F] in
private theorem rawIps_selected (runtime : Runtime F) (selected : Event F → Bool) {rows : List (QueryRow F)}
    (areTexts : ∀ row ∈ rows, TextColumn (row.get? "ip")) :
    ((rows.filter fun row =>
        match coerceEvent runtime row with
        | some event => selected event
        | none => false).filterMap rawIp) =
      rawAddresses ((rows.filterMap (coerceEvent runtime)).filter selected) := by
  -- A row that is accepted holds the address of its event.
  induction rows with
  | nil => rfl
  | cons row rows ih =>
    have rest := ih fun other member => areTexts other (List.mem_cons_of_mem _ member)
    simp only [rawAddresses] at rest ⊢
    cases accepted : coerceEvent runtime row with
    | none =>
      simpa only [List.filter_cons, List.filterMap_cons, accepted, Bool.false_eq_true, if_false]
        using rest
    | some event =>
      have address := coerceEvent_ip (areTexts row (List.mem_cons_self ..)) accepted
      by_cases keeps : selected event = true
      · simp only [List.filter_cons, List.filterMap_cons, accepted, keeps, if_true, address, rest]
      · simp only [List.filter_cons, List.filterMap_cons, accepted, keeps, Bool.false_eq_true, if_false,
          rest]

omit [Statistics F] [OfScientific F] in
private theorem accepted_inside (runtime : Runtime F) (newest : DateTime) (duration : Int)
    (rows : List (QueryRow F)) :
    (rowsInside runtime newest duration rows).filterMap (coerceEvent runtime) =
      (rows.filterMap (coerceEvent runtime)).filter fun event => inWindow newest duration event.timestamp := by
  -- A row is inside when its event is.
  induction rows with
  | nil => rfl
  | cons row rows ih =>
    simp only [rowsInside] at ih ⊢
    cases accepted : coerceEvent runtime row with
    | none => simpa only [List.filter_cons, List.filterMap_cons, accepted, Bool.false_eq_true, if_false] using ih
    | some event =>
      by_cases inside : inWindow newest duration event.timestamp = true
      · simp only [List.filter_cons, List.filterMap_cons, accepted, inside, if_true, ih]
      · simp only [List.filter_cons, List.filterMap_cons, accepted, inside, Bool.false_eq_true, if_false, ih]

/-- The scrubbed events of a window have the summaries of the rows inside it. -/
theorem windowStats_scrubRows {runtime : Runtime F} {digests : Digests} {rows : List (QueryRow F)}
    (areTexts : ∀ row ∈ rows, TextColumn (row.get? "ip"))
    (distinct : Set.InjOn (digests.hmacSha256 · digests.hmacKey) {ip | ip ∈ rows.filterMap rawIp})
    (newest : DateTime) (duration : Int) :
    windowStats (recent newest duration (scrubRows runtime digests (rows.map .dict))) =
      rowStats runtime (rowsInside runtime newest duration rows) := by
  have counted : (rowsInside runtime newest duration rows).filterMap rawIp =
      rawAddresses ((rows.filterMap (coerceEvent runtime)).filter fun event =>
        inWindow newest duration event.timestamp) :=
    rawIps_selected runtime _ areTexts
  have involved : ∀ ip ∈ (rowsInside runtime newest duration rows).filterMap rawIp,
      ip ∈ rows.filterMap rawIp := fun ip member =>
    (List.filter_sublist.filterMap rawIp).subset member
  have injective := distinct.mono involved
  rw [counted] at injective
  -- Scrubbing keeps times, durations and amounts, and the digests are as many as the addresses.
  have scrubbed : recent newest duration (scrubRows runtime digests (rows.map .dict)) =
      ((rows.filterMap (coerceEvent runtime)).filter fun event =>
        inWindow newest duration event.timestamp).map (scrub digests) := by
    rw [scrubRows_dicts, recent, List.filter_map]
    rfl
  simp only [windowStats, rowStats, scrubbed, addressesOf_scrub injective, counted, accepted_inside,
    durationsOf, bytesOf, List.filterMap_map, List.mapM_map]
  rfl

/-- The aggregates of accepted rows are the features of the rows. -/
theorem computeAggregates_scrubRows {runtime : Runtime F} {digests : Digests} {rows : List (QueryRow F)}
    (areTexts : ∀ row ∈ rows, TextColumn (row.get? "ip"))
    (distinct : Set.InjOn (digests.hmacSha256 · digests.hmacKey) {ip | ip ∈ rows.filterMap rawIp})
    {features : Dict String F} :
    computeAggregates (scrubRows runtime digests (rows.map .dict)) = .ok features ↔
      RowFeatures runtime rows features := by
  -- Hashing keeps the number of distinct addresses, and nothing else of them is used.
  have each : ∀ newest duration,
      windowStats (recent newest duration (scrubRows runtime digests (rows.map .dict))) =
        rowStats runtime (rowsInside runtime newest duration rows) :=
    windowStats_scrubRows areTexts distinct
  rw [scrubRows_dicts]
  simp only [scrubRows_dicts] at each
  rw [RowFeatures, newestAccepted]
  cases accepted : rows.filterMap (coerceEvent runtime) with
  | nil => simp [computeAggregates, eq_comm]
  | cons event events =>
    rw [accepted] at each
    have times : (events.map (scrub digests)).map ScrubbedEvent.timestamp = events.map Event.timestamp := by
      rw [List.map_map]
      rfl
    have latest : DateTime.latest (scrub digests event).timestamp
        ((events.map (scrub digests)).map ScrubbedEvent.timestamp) =
        DateTime.latest event.timestamp (events.map Event.timestamp) := by rw [times]; rfl
    simp only [reduceCtorEq, false_and, false_or, toOption_eq_some]
    constructor
    · intro returned
      obtain ⟨newest, found, fits, computed⟩ := computeAggregates_eq_ok returned
      obtain ⟨summaries, read, rfl⟩ := recentFeatures_eq_ok.mp computed
      refine ⟨newest, latest ▸ found, fits, summaries, fun window windowIn => ?_, rfl⟩
      rw [← each, List.map_cons]
      exact read window windowIn
    · rintro ⟨newest, found, fits, summaries, read, rfl⟩
      rw [← latest] at found
      rw [List.map_cons, computeAggregates_eq found fits]
      refine recentFeatures_eq_ok.mpr ⟨summaries, fun window windowIn => ?_, rfl⟩
      rw [← List.map_cons, each]
      exact read window windowIn

/-- The features of some rows tell how many different addresses the rows of a window hold. -/
theorem RowFeatures.countsIps {runtime : Runtime F} {rows : List (QueryRow F)} {features : Dict String F}
    (zero : (Statistics.ofCount 0 : F) = 0.0) (rowFeatures : RowFeatures runtime rows features) :
    ∀ window ∈ windows, CountsIps features window.1 (distinctIps runtime window.2 rows) := by
  intro window windowIn
  have addresses : "unique_ip_count" ∈ metrics := by simp [metrics]
  rcases rowFeatures with ⟨none, rfl⟩ | ⟨newest, found, -, summaries, read, rfl⟩
  · -- Without an accepted row all features are zero.
    have nothing : distinctIps runtime window.2 rows = 0 := by rw [distinctIps, newestAccepted, none]
    obtain ⟨mean, std, count⟩ := featuresOf_get? (fun _ => (WindowStats.zero : WindowStats F)) windowIn addresses
    rw [emptyFeatures_eq, nothing]
    exact ⟨by rw [zero]; exact mean, std, count⟩
  · -- The number of addresses is the last of the summaries.
    obtain ⟨mean, std, count⟩ := featuresOf_get? summaries windowIn addresses
    obtain ⟨hours, _, rest⟩ := bind_eq_ok.mp (read window windowIn)
    obtain ⟨bytes, _, rest⟩ := bind_eq_ok.mp rest
    obtain ⟨hourStats, _, rest⟩ := bind_eq_ok.mp rest
    obtain ⟨durations, _, rest⟩ := bind_eq_ok.mp rest
    obtain ⟨byteStats, _, rest⟩ := bind_eq_ok.mp rest
    rw [← Except.ok.inj rest] at mean std count
    rw [distinctIps, found]
    exact ⟨mean, std, count⟩

omit [Statistics F] [OfScientific F] in
/-- The addresses of accepted rows are among the addresses of all rows, and none is empty. -/
theorem mem_rawAddresses {runtime : Runtime F} {rows : List (QueryRow F)}
    (areTexts : ∀ row ∈ rows, TextColumn (row.get? "ip")) {ip : String}
    (member : ip ∈ rawAddresses (rows.filterMap (coerceEvent runtime))) :
    ip ∈ rows.filterMap rawIp ∧ ip ≠ "" := by
  -- An accepted row holds the address of its event.
  obtain ⟨event, listed, holds⟩ := List.mem_filterMap.mp member
  obtain ⟨row, rowIn, accepted⟩ := List.mem_filterMap.mp listed
  have address := coerceEvent_ip (areTexts row rowIn) accepted
  refine ⟨List.mem_filterMap.mpr ⟨row, rowIn, address ▸ holds⟩, ?_⟩
  exact of_decide_eq_true (Option.filter_eq_some_iff.mp holds).2

omit [Statistics F] [OfScientific F] in
private theorem texts_of_renamed {rename : String → String} {rows others : List (QueryRow F)}
    (renamed : List.Forall₂ (RenamedRow rename) rows others) :
    (∀ row ∈ rows, TextColumn (row.get? "ip")) ∧ ∀ row ∈ others, TextColumn (row.get? "ip") := by
  -- The columns are related row by row.
  induction renamed with
  | nil => simp
  | cons same _ ih =>
    exact ⟨List.forall_mem_cons.mpr ⟨same.ip.isText.1, ih.1⟩,
      List.forall_mem_cons.mpr ⟨same.ip.isText.2, ih.2⟩⟩

/-- The features of a profile are the aggregates of the rows that the connection returns. -/
theorem buildUserProfile_fetching (runtime : Runtime F) (digests : Digests) (rows : List (QueryRow F))
    {now since : DateTime} (later : DateTime) (userId : String) {windowDays : Int}
    (positive : 0 < windowDays) (start : now.minus (windowDays * dayMicros) = .ok since) :
    buildUserProfile runtime digests (fetching rows) now later userId windowDays =
      (computeAggregates (scrubRows runtime digests (rows.map .dict))).map fun features =>
        ⟨userId, windowDays, features, later⟩ := by
  -- The window is valid and the query answers.
  rw [buildUserProfile, if_neg (by omega), start, ok_bind, fetching, ok_bind]
  cases computeAggregates (scrubRows runtime digests (rows.map .dict)) <;> rfl

/-- A profile is returned exactly when the window starts in year 1 or later and the rows have features, and
then it is the profile of these. -/
theorem buildUserProfile_fetching_eq_ok (runtime : Runtime F) {digests : Digests} {rows : List (QueryRow F)}
    (areTexts : ∀ row ∈ rows, TextColumn (row.get? "ip"))
    (distinct : Set.InjOn (digests.hmacSha256 · digests.hmacKey) {ip | ip ∈ rows.filterMap rawIp})
    (now later : DateTime) (userId : String) (windowDays : Int) (profile : UserProfile F) :
    buildUserProfile runtime digests (fetching rows) now later userId windowDays = .ok profile ↔
      (0 < windowDays ∧ windowDays * dayMicros ≤ now.micros) ∧ RowFeatures runtime rows profile.features ∧
        profile = ⟨userId, windowDays, profile.features, later⟩ := by
  have inRange := now.inRange
  by_cases positive : 0 < windowDays
  case neg =>
    simp only [buildUserProfile, if_pos (show windowDays ≤ 0 by omega)]
    exact iff_of_false (by simp) fun all => positive all.1.1
  have ahead : 0 ≤ windowDays * dayMicros := mul_nonneg positive.le (by decide)
  by_cases fits : windowDays * dayMicros ≤ now.micros
  case neg =>
    -- The window would start before year 1, whatever the rows.
    have raised : now.minus (windowDays * dayMicros) = .error (.overflowError "date value out of range") :=
      dif_neg (by omega)
    simp only [buildUserProfile, if_neg (show ¬ windowDays ≤ 0 by omega), raised, error_bind]
    exact iff_of_false (by simp) fun all => fits all.1.2
  have started : now.minus (windowDays * dayMicros) =
      .ok ⟨now.micros - windowDays * dayMicros, now.tzinfo.unfolded, by omega⟩ := dif_pos (by omega)
  rw [buildUserProfile_fetching runtime digests rows later userId positive started, map_eq_ok]
  simp only [computeAggregates_scrubRows areTexts distinct]
  constructor
  · rintro ⟨features, rowFeatures, rfl⟩
    exact ⟨⟨positive, fits⟩, rowFeatures, rfl⟩
  · rintro ⟨-, rowFeatures, same⟩
    exact ⟨_, rowFeatures, same.symm⟩

/-- Profiles that are built from rows which agree but for the names of addresses and for mail addresses have
the same features, whatever the keys of the digests. A profile is returned exactly when its window starts in
year 1 or later and the rows have features, which are then its features, and each window tells how many
different addresses its accepted rows hold. -/
theorem buildUserProfile_renamed (runtime : Runtime F) {digests otherDigests : Digests}
    {rename : String → String} {rows others : List (QueryRow F)}
    (zero : (Statistics.ofCount 0 : F) = 0.0)
    (renamed : List.Forall₂ (RenamedRow rename) rows others)
    (kept : ∀ ip, ip ≠ "" → rename ip ≠ "") (injective : Set.InjOn rename {ip | ip ≠ ""})
    (distinct : Set.InjOn (digests.hmacSha256 · digests.hmacKey) {ip | ip ∈ rows.filterMap rawIp})
    (otherDistinct : Set.InjOn (otherDigests.hmacSha256 · otherDigests.hmacKey)
      {ip | ip ∈ others.filterMap rawIp})
    (now later otherLater : DateTime) (userId : String) (windowDays : Int) :
    (buildUserProfile runtime otherDigests (fetching others) now otherLater userId windowDays).map
        UserProfile.features =
      (buildUserProfile runtime digests (fetching rows) now later userId windowDays).map
        UserProfile.features ∧
    (∀ profile, buildUserProfile runtime digests (fetching rows) now later userId windowDays = .ok profile ↔
      (0 < windowDays ∧ windowDays * dayMicros ≤ now.micros) ∧ RowFeatures runtime rows profile.features ∧
        profile = ⟨userId, windowDays, profile.features, later⟩) ∧
    ∀ profile, buildUserProfile runtime digests (fetching rows) now later userId windowDays = .ok profile →
      ∀ window ∈ windows, CountsIps profile.features window.1 (distinctIps runtime window.2 rows) := by
  -- Both profiles are made of the aggregates of renamed events.
  obtain ⟨areTexts, otherTexts⟩ := texts_of_renamed renamed
  have events : List.Forall₂ (RenamedEvent rename) (rows.filterMap (coerceEvent runtime))
      (others.filterMap (coerceEvent runtime)) :=
    List.rel_filterMap (fun _ _ same => coerceEvent_renamed runtime kept same) renamed
  have same : (computeAggregates (scrubRows runtime otherDigests (others.map .dict)) :
      Except PyError (Dict String F)) = computeAggregates (scrubRows runtime digests (rows.map .dict)) := by
    rw [scrubRows_dicts, scrubRows_dicts]
    exact computeAggregates_renamed events
      (injective.mono fun ip member => (mem_rawAddresses areTexts member).2)
      (distinct.mono fun ip member => (mem_rawAddresses areTexts member).1)
      (otherDistinct.mono fun ip member => (mem_rawAddresses otherTexts member).1)
  have built := buildUserProfile_fetching_eq_ok runtime areTexts distinct now later userId windowDays
  refine ⟨?_, built, fun profile returned => ((built profile).mp returned).2.1.countsIps zero⟩
  by_cases positive : 0 < windowDays
  case neg => simp only [buildUserProfile, if_pos (show windowDays ≤ 0 by omega)]
  cases start : now.minus (windowDays * dayMicros) with
  | error error => simp only [buildUserProfile, if_neg (show ¬ windowDays ≤ 0 by omega), start, error_bind]
  | ok since =>
    rw [buildUserProfile_fetching runtime digests rows later userId positive start,
      buildUserProfile_fetching runtime otherDigests others otherLater userId positive start, same]
    cases computeAggregates (scrubRows runtime digests (rows.map .dict)) <;> rfl

/-- Digests that put the key before the value. -/
def prefixDigests (key : String) : Digests where
  -- The mark at the end keeps every digest from being empty.
  hmacSha256 value key := key ++ value ++ "."
  sha256 value := value
  hmacKey := key
  hmacSha256_ne_empty value key empty := by simpa using congrArg String.toList empty

private theorem prefixDigests_injective (key : String) :
    Function.Injective ((prefixDigests key).hmacSha256 · (prefixDigests key).hmacKey) := by
  -- Key and final point are the same in both digests.
  intro first second same
  have chars := congrArg String.toList same
  simp only [prefixDigests, String.toList_append, List.append_cancel_right_eq,
    List.append_cancel_left_eq] at chars
  exact String.toList_inj.mp chars

/-- A row of an event at the start of 1970, with an address and a mail address. -/
def addressRow (ip email : String) : QueryRow (ExtFloat ℚ) :=
  -- Names the columns as the query does.
  .ofList [("user_id", .uuid 1), ("timestamp", .datetime .epoch), ("event_type", .json (.str "auth")),
    ("ip", .json (.str ip)), ("email", .json (.str email)), ("session_duration_s", .none),
    ("bytes_out", .none)]

private theorem addressRow_renamed (rename : String → String) {ip : String} (nonempty : ip ≠ "")
    (email otherEmail : String) :
    RenamedRow rename (addressRow ip email) (addressRow (rename ip) otherEmail) := by
  -- Each column is read back as it was put in.
  have column : ∀ ip email name, (addressRow ip email).get? name =
      if name = "bytes_out" then some .none else if name = "session_duration_s" then some .none
      else if name = "email" then some (.json (.str email))
      else if name = "ip" then some (.json (.str ip))
      else if name = "event_type" then some (.json (.str "auth"))
      else if name = "timestamp" then some (.datetime .epoch)
      else if name = "user_id" then some (.uuid 1) else none := by
    intro ip email name
    simp only [addressRow, Dict.ofList, List.foldl_cons, List.foldl_nil, Dict.get?_set,
      Dict.get?_empty]
  refine ⟨fun name notIp notEmail => by simp only [column, if_neg notIp, if_neg notEmail], ?_, ?_, ?_⟩
  · rw [column, column]
    exact .text ip nonempty
  · rw [column]
    exact .text email
  · rw [column]
    exact .text otherEmail

/-- Three events from two addresses have a profile that counts two addresses in the last hour, and it has the
features of the profile of three events from the renamed addresses under another key. -/
theorem buildUserProfile_renamed_marked :
    (buildUserProfile (plainRuntime (ExtFloat ℚ)) (prefixDigests "other")
        (fetching [addressRow "10.0.0.1!" "", addressRow "10.0.0.2!" "x@y.z",
          addressRow "10.0.0.1!" ""]) .epoch .epoch "1" 30).map UserProfile.features =
      (buildUserProfile (plainRuntime (ExtFloat ℚ)) (prefixDigests "key")
        (fetching [addressRow "10.0.0.1" "a@b.c", addressRow "10.0.0.2" "",
          addressRow "10.0.0.1" "d@e.f"]) .epoch .epoch "1" 30).map UserProfile.features ∧
    ∃ profile, buildUserProfile (plainRuntime (ExtFloat ℚ)) (prefixDigests "key")
        (fetching [addressRow "10.0.0.1" "a@b.c", addressRow "10.0.0.2" "",
          addressRow "10.0.0.1" "d@e.f"]) .epoch .epoch "1" 30 = .ok profile ∧
      CountsIps profile.features "1h" 2 := by
  -- The renaming puts a mark behind every address.
  have marked : Function.Injective fun ip : String => ip ++ "!" := by
    intro first second same
    have chars := congrArg String.toList same
    simp only [String.toList_append, List.append_cancel_right_eq] at chars
    exact String.toList_inj.mp chars
  have kept : ∀ ip : String, ip ≠ "" → ip ++ "!" ≠ "" := fun ip _ empty => by
    simpa using congrArg String.toList empty
  have renamed : List.Forall₂ (RenamedRow fun ip => ip ++ "!")
      [addressRow "10.0.0.1" "a@b.c", addressRow "10.0.0.2" "", addressRow "10.0.0.1" "d@e.f"]
      [addressRow "10.0.0.1!" "", addressRow "10.0.0.2!" "x@y.z", addressRow "10.0.0.1!" ""] :=
    .cons (addressRow_renamed _ (by decide) _ _) (.cons (addressRow_renamed _ (by decide) _ _)
      (.cons (addressRow_renamed _ (by decide) _ _) .nil))
  obtain ⟨same, -, counts⟩ := buildUserProfile_renamed (plainRuntime (ExtFloat ℚ)) (by decide +kernel)
    renamed kept marked.injOn (prefixDigests_injective "key").injOn
    (prefixDigests_injective "other").injOn .epoch .epoch .epoch "1" 30
  refine ⟨same, ?_⟩
  have returns : (buildUserProfile (plainRuntime (ExtFloat ℚ)) (prefixDigests "key")
      (fetching [addressRow "10.0.0.1" "a@b.c", addressRow "10.0.0.2" "",
        addressRow "10.0.0.1" "d@e.f"]) .epoch .epoch "1" 30).toOption.isSome = true := by decide +kernel
  obtain ⟨profile, built⟩ := Option.isSome_iff_exists.mp returns
  have counted : distinctIps (plainRuntime (ExtFloat ℚ)) hourMicros
      [addressRow "10.0.0.1" "a@b.c", addressRow "10.0.0.2" "", addressRow "10.0.0.1" "d@e.f"] = 2 := by
    decide +kernel
  exact ⟨profile, toOption_eq_some.mp built,
    counted ▸ counts profile (toOption_eq_some.mp built) ("1h", hourMicros) (by simp [windows])⟩

end Absm
