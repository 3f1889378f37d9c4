import Absm.Alerts.Dispatcher
import Absm.Foundation.WholeFloat
import Absm.Ingest.PlainRuntime
import Absm.Proofs.Foundation.JsonText

/-! Every alert is delivered or kept, once, and what is kept can be read back. -/

namespace Absm

variable {K : Type}

/-! ### Identifiers -/

/-- A number has as many digits as are asked for. -/
@[simp] theorem hexText_length (digits value : Nat) : (hexText digits value).length = digits := by
  -- Each step adds one digit.
  induction digits generalizing value with
  | zero => rfl
  | succ digits ih => rw [hexText, List.length_append, ih, List.length_singleton]

private theorem dash_not_mem_hexText (digits value : Nat) : '-' ∉ hexText digits value := by
  -- There are sixteen digits.
  have each : ∀ digit < 16, '-' ≠ hexChar digit := by decide
  induction digits generalizing value with
  | zero => simp [hexText]
  | succ digits ih =>
    rw [hexText, List.mem_append, List.mem_singleton, not_or]
    exact ⟨ih _, each _ (Nat.mod_lt _ (by decide))⟩

private theorem foldlM_hexText (digits value start : Nat) :
    (hexText digits value).foldlM
        (fun value c => (hexDigit? c).map fun digit => value * 16 + digit) start =
      some (start * 16 ^ digits + value % 16 ^ digits) := by
  -- The last digit is the remainder of one division, and the others spell the quotient.
  induction digits generalizing value with
  | zero => simp [hexText, Nat.mod_one]
  | succ digits ih =>
    rw [hexText, List.foldlM_append, ih]
    simp only [Option.bind_eq_bind, Option.bind_some, List.foldlM_cons, List.foldlM_nil,
      hexDigit?_hexChar (Nat.mod_lt value (by decide)), Option.map_some, Option.pure_def]
    congr 1
    have split := Nat.mod_mul (x := value) (a := 16) (b := 16 ^ digits)
    rw [Nat.pow_succ', split, Nat.add_mul, Nat.mul_assoc, Nat.mul_comm (16 ^ digits) 16]
    omega

private theorem filter_groups {digits : List Char} (noDash : '-' ∉ digits) :
    (digits.take 8 ++ '-' :: ((digits.drop 8).take 4 ++ '-' :: ((digits.drop 12).take 4 ++
      '-' :: ((digits.drop 16).take 4 ++ '-' :: digits.drop 20)))).filter (· ≠ '-') = digits := by
  -- A group holds digits only, and the groups follow one another.
  have kept : ∀ part : List Char, part ⊆ digits → part.filter (· ≠ '-') = part := fun part inside =>
    List.filter_eq_self.mpr fun c member => by
      simp only [ne_eq, decide_not, Bool.not_eq_true', decide_eq_false_iff_not]
      rintro rfl
      exact noDash (inside member)
  have middle : ∀ start size, (digits.drop start).take size ⊆ digits := fun start size =>
    List.Subset.trans (List.take_subset _ _) (List.drop_subset _ _)
  have joined : ∀ start size, (digits.drop start).take size ++ digits.drop (start + size) =
      digits.drop start := fun start size => by rw [← List.drop_drop, List.take_append_drop]
  simp only [List.filter_append, List.filter_cons, ne_eq, not_true_eq_false, decide_false,
    Bool.false_eq_true, if_false, kept _ (List.take_subset 8 digits), kept _ (middle 8 4),
    kept _ (middle 12 4), kept _ (middle 16 4), kept _ (List.drop_subset 20 digits)]
  rw [joined 16 4, joined 12 4, joined 8 4, List.take_append_drop]

/-- The text of an identifier spells it. -/
theorem plainUuid_uuidText (id : Uuid) : plainUuid (uuidText id) = some id := by
  -- Without the dashes thirty-two digits are left.
  have noDash := dash_not_mem_hexText 32 id.toNat
  rw [plainUuid, uuidText]
  simp only [String.toList_ofList, filter_groups noDash, hexText_length, if_true, foldlM_hexText,
    Option.map_some]
  have small : id.toNat < 16 ^ 32 := id.isLt
  rw [Nat.zero_mul, Nat.zero_add, Nat.mod_eq_of_lt small, BitVec.ofNat_toNat]
  rfl

/-! ### Reading dead letters -/

namespace Json

/-- The value of a key, if the document is a mapping that has it. -/
def member? (document : Json K) (key : String) : Option (Json K) :=
  -- Only objects have members.
  match document with
  | .object members => lookupEntry key members
  | _ => none

/-- The text of a string. -/
def text? : Json K → Option String
  | .str text => some text
  | _ => none

/-- The value of a float. -/
def float? : Json K → Option K
  | .float value => some value
  | _ => none

/-- The items of a list. -/
def items? : Json K → Option (List (Json K))
  | .array items => some items
  | _ => none

end Json

/-- The severity of a literal. -/
def Severity.ofText (text : String) : Option Severity :=
  -- The four texts differ, so at most one severity fits.
  [Severity.critical, .high, .medium, .low].find? fun severity => severity.text = text

/-- Read a contribution out of a document. -/
def readContribution (document : Json K) : Option (FeatureContribution K) := do
  -- Each of the three members has to be there, with a value of its kind.
  let featureName ← (← document.member? "feature_name").text?
  let contribution ← (← document.member? "contribution").float?
  let description ← (← document.member? "description").text?
  return ⟨featureName, contribution, description⟩

/-- Read a percentile out of a document. -/
def readRank (document : Json K) : Option (PeerFeatureRank K) := do
  -- Both members have to be there.
  let featureName ← (← document.member? "feature_name").text?
  let percentileRank ← (← document.member? "percentile_rank").float?
  return ⟨featureName, percentileRank⟩

/-- Read a peer context out of a document. -/
def readPeerContext (document : Json K) : Option (PeerContext K) := do
  -- One rank that cannot be read makes the context unreadable.
  let userId ← (← document.member? "user_id").text?
  let role ← (← document.member? "role").text?
  let ranks ← (← (← document.member? "feature_percentiles").items?).mapM readRank
  return ⟨userId, role, ranks⟩

/-- Read an alert out of the document of a dead letter. -/
def readAlert (document : Json K) : Option (Alert K) := do
  -- The two keys that the dead letter adds are not looked at.
  let alertId ← plainUuid (← (← document.member? "alert_id").text?)
  let severity ← Severity.ofText (← (← document.member? "severity").text?)
  let mitreTactic ← (← document.member? "mitre_tactic").text?
  let recommendedActions ← (← (← document.member? "recommended_actions").items?).mapM Json.text?
  let explanation ← document.member? "explanation"
  let topFeatures ← (← (← explanation.member? "top_features").items?).mapM readContribution
  let peerContext ← readPeerContext (← document.member? "peer_context")
  return ⟨alertId, severity, mitreTactic, recommendedActions, ⟨topFeatures⟩, peerContext⟩

private theorem readContribution_asdict (contribution : FeatureContribution K) :
    readContribution contribution.asdict = some contribution := by
  -- A contribution is read back.
  simp [readContribution, FeatureContribution.asdict, Json.member?, lookupEntry, Json.text?, Json.float?]

private theorem readRank_asdict (rank : PeerFeatureRank K) : readRank rank.asdict = some rank := by
  -- A percentile is read back.
  simp [readRank, PeerFeatureRank.asdict, Json.member?, lookupEntry, Json.text?, Json.float?]

private theorem readPeerContext_asdict (context : PeerContext K) :
    readPeerContext context.asdict = some context := by
  -- A peer context is read back.
  simp [readPeerContext, PeerContext.asdict, Json.member?, lookupEntry, Json.text?, Json.items?,
    mapM_map_of_pure readRank _ fun rank _ => readRank_asdict rank]

private theorem payload_members (alert : Alert K) (failedAt reason : String) :
    (deadLetterPayload alert failedAt reason).member? "alert_id" = some (.str (uuidText alert.alertId)) ∧
    (deadLetterPayload alert failedAt reason).member? "severity" = some (.str alert.severity.text) ∧
    (deadLetterPayload alert failedAt reason).member? "mitre_tactic" = some (.str alert.mitreTactic) ∧
    (deadLetterPayload alert failedAt reason).member? "recommended_actions" =
      some (.array (alert.recommendedActions.map .str)) ∧
    (deadLetterPayload alert failedAt reason).member? "explanation" = some alert.explanation.asdict ∧
    (deadLetterPayload alert failedAt reason).member? "peer_context" = some alert.peerContext.asdict := by
  -- The keys are distinct.
  refine ⟨?_, ?_, ?_, ?_, ?_, ?_⟩ <;> simp [deadLetterPayload, Json.member?, lookupEntry]

/-- The alert of a dead letter is read back. -/
theorem readAlert_payload (alert : Alert K) (failedAt reason : String) :
    readAlert (deadLetterPayload alert failedAt reason) = some alert := by
  -- Each field is found under its key and read back from what it was written as.
  obtain ⟨id, severity, tactic, actions, explanation, context⟩ := payload_members alert failedAt reason
  have severityRead : Severity.ofText alert.severity.text = some alert.severity := by
    cases alert.severity <;> decide
  have actionsRead : (alert.recommendedActions.map (Json.str : String → Json K)).mapM Json.text? =
      some alert.recommendedActions :=
    mapM_map_of_pure Json.text? Json.str fun _ _ => rfl
  have features : alert.explanation.asdict.member? "top_features" =
      some (.array (alert.explanation.topFeatures.map FeatureContribution.asdict)) := by
    simp [Explanation.asdict, Json.member?, lookupEntry]
  have featuresRead := mapM_map_of_pure readContribution _
    fun contribution (_ : contribution ∈ alert.explanation.topFeatures) =>
      readContribution_asdict contribution
  unfold readAlert
  rw [id, severity, tactic, actions, explanation, context]
  simp only [Option.bind_eq_bind, Option.bind_some, Json.text?, Json.items?, plainUuid_uuidText,
    severityRead, actionsRead, features, featuresRead, readPeerContext_asdict]
  rfl

variable [FloatRepr K]

omit [FloatRepr K] in
/-- A payload is written with four levels of containers. -/
theorem printable_payload (room : Nat) (alert : Alert K) (failedAt reason : String) :
    Printable (room + 4) (deadLetterPayload alert failedAt reason) := by
  -- Contributions and percentiles are mappings inside lists inside mappings.
  have explanation : Printable (room + 3) alert.explanation.asdict := by
    refine .object (by simp) fun entry member => ?_
    obtain rfl := List.mem_singleton.mp member
    refine .array fun item member => ?_
    obtain ⟨contribution, _, rfl⟩ := List.mem_map.mp member
    refine .object (by simp) fun entry member => ?_
    simp only [List.mem_cons, List.not_mem_nil, or_false] at member
    rcases member with rfl | rfl | rfl
    · exact .str _
    · exact .float _
    · exact .str _
  have context : Printable (room + 3) alert.peerContext.asdict := by
    refine .object (by simp) fun entry member => ?_
    simp only [List.mem_cons, List.not_mem_nil, or_false] at member
    rcases member with rfl | rfl | rfl
    · exact .str _
    · exact .str _
    · refine .array fun item member => ?_
      obtain ⟨rank, _, rfl⟩ := List.mem_map.mp member
      refine .object (by simp) fun entry member => ?_
      simp only [List.mem_cons, List.not_mem_nil, or_false] at member
      rcases member with rfl | rfl
      · exact .str _
      · exact .float _
  refine .object (by simp) fun entry member => ?_
  simp only [List.mem_cons, List.not_mem_nil, or_false] at member
  rcases member with rfl | rfl | rfl | rfl | rfl | rfl | rfl | rfl
  case inr.inr.inr.inl =>
    refine .array fun item member => ?_
    obtain ⟨action, _, rfl⟩ := List.mem_map.mp member
    exact .str _
  case inr.inr.inr.inr.inl => exact explanation
  case inr.inr.inr.inr.inr.inl => exact context
  all_goals exact .str _

/-- A line of the file of dead letters tells an alert: without its line break it is a document that the
alert can be read from, and it holds no other line break. -/
structure Tells (room : Nat) (line : List Char) (alert : Alert K) : Prop where
  /-- The line ends in a line break, and holds no other one. -/
  ends : ∃ text, line = text ++ ['\n'] ∧ '\n' ∉ text
  /-- What stands before the line break is a document that the alert is read from. -/
  document : ∃ document, loads room line.dropLast = .ok document ∧ readAlert document = some alert

/-- A dead letter tells its alert. -/
theorem deadLetterLine_tells (room : Nat) (alert : Alert K) (failedAt reason : String) :
    Tells (room + 4) (deadLetterLine alert failedAt reason) alert := by
  -- The line without its newline is the text of the payload.
  have printable := printable_payload room alert failedAt reason
  refine ⟨⟨_, rfl, newline_not_mem_dump printable⟩, deadLetterPayload alert failedAt reason, ?_,
    readAlert_payload alert failedAt reason⟩
  rw [deadLetterLine, List.dropLast_concat, loads_dump printable]

/-- A line tells one alert only. -/
theorem Tells.unique {room : Nat} {line : List Char} {alert other : Alert K}
    (first : Tells room line alert) (second : Tells room line other) : alert = other := by
  -- A document is read in one way.
  obtain ⟨document, loaded, read⟩ := first.document
  obtain ⟨again, otherLoaded, otherRead⟩ := second.document
  obtain rfl : document = again := Except.ok.inj (loaded.symm.trans otherLoaded)
  exact Option.some.inj (read.symm.trans otherRead)

/-! ### Accounting -/

/-- What becomes of an alert that is dispatched while writing dead letters works. -/
inductive DeliveredOrKept (call : DispatchCall K) (before : List Char) : Dispatched → Prop where
  /-- Some attempts failed, the next one returned, and nothing was written. -/
  | delivered (failures : List String) (slept : List ℚ) (few : failures.length < maxAttempts) :
    DeliveredOrKept call before ⟨.ok (), failures.map .raises ++ [.returns], slept, before⟩
  /-- Three attempts failed, and one line was written, with the reason of the last one. -/
  | kept (first second last : String) (slept : List ℚ) :
    DeliveredOrKept call before ⟨.ok (), [.raises first, .raises second, .raises last], slept,
      before ++ deadLetterLine call.alert call.failedAt last⟩

/-- The line that a call writes: one for the reason of the third attempt, if none returned. -/
def DispatchCall.letter (call : DispatchCall K) : Option (List Char) :=
  -- An alert is given up when its third attempt has raised.
  match call.deliver 1, call.deliver 2, call.deliver 3 with
  | .raises _, .raises _, .raises last => some (deadLetterLine call.alert call.failedAt last)
  | _, _, _ => none

/-- What a call does, depending on how the three attempts would end. -/
theorem dispatch_eq {call : DispatchCall K} (writes : call.fault = none) (before : List Char) :
    dispatch call before =
      match call.deliver 1, call.deliver 2, call.deliver 3 with
      | .returns, _, _ => ⟨.ok (), [.returns], [], before⟩
      | .raises first, .returns, _ => ⟨.ok (), [.raises first, .returns], [0.1 * 2 ^ 0], before⟩
      | .raises first, .raises second, .returns =>
        ⟨.ok (), [.raises first, .raises second, .returns], [0.1 * 2 ^ 0, 0.1 * 2 ^ 1], before⟩
      | .raises first, .raises second, .raises last =>
        ⟨.ok (), [.raises first, .raises second, .raises last], [0.1 * 2 ^ 0, 0.1 * 2 ^ 1],
          before ++ deadLetterLine call.alert call.failedAt last⟩ := by
  -- The loop is followed through its three rounds.
  cases first : call.deliver 1 with
  | returns => simp only [dispatch, maxAttempts, attemptDelivery, first, List.nil_append]
  | raises reason =>
    cases second : call.deliver 2 with
    | returns =>
      simp [dispatch, maxAttempts, attemptDelivery, first, second]
    | raises other =>
      cases third : call.deliver 3 <;>
        simp [dispatch, maxAttempts, attemptDelivery, first, second, third, writeDeadLetter, writes]

/-- A call is accounted for. -/
theorem dispatch_accounted {call : DispatchCall K} (writes : call.fault = none) (before : List Char) :
    DeliveredOrKept call before (dispatch call before) := by
  -- One case for each number of failures.
  rw [dispatch_eq writes]
  cases call.deliver 1 with
  | returns => exact .delivered [] _ (by decide)
  | raises first =>
    cases call.deliver 2 with
    | returns => exact .delivered [first] _ (by simp [maxAttempts])
    | raises second =>
      cases call.deliver 3 with
      | returns => exact .delivered [first, second] _ (by simp [maxAttempts])
      | raises last => exact .kept first second last _

/-- A call appends its line to the file, if it has one. -/
theorem dispatch_file {call : DispatchCall K} (writes : call.fault = none) (before : List Char) :
    (dispatch call before).file = before ++ call.letter.getD [] := by
  -- Only three failures make a line.
  rw [dispatch_eq writes, DispatchCall.letter]
  cases call.deliver 1 <;> cases call.deliver 2 <;> cases call.deliver 3 <;> simp

/-- A call makes attempts in order, from the first one on. -/
theorem dispatch_attempts {call : DispatchCall K} (writes : call.fault = none) (before : List Char) :
    (dispatch call before).attempts = (List.range (dispatch call before).attempts.length).map
      fun attempt => call.deliver (attempt + 1) := by
  -- The attempts that are made are the first ones.
  rw [dispatch_eq writes]
  cases first : call.deliver 1 <;> cases second : call.deliver 2 <;> cases third : call.deliver 3 <;>
    simp [List.range_succ, first, second, third]

/-- Alerts that are dispatched in turn append their lines in this order. -/
theorem dispatchAll_eq {calls : List (DispatchCall K)} (writes : ∀ call ∈ calls, call.fault = none)
    (before : List Char) :
    dispatchAll calls before = before ++ (calls.filterMap DispatchCall.letter).flatten := by
  -- Each call appends its line to what the calls before it left.
  induction calls generalizing before with
  | nil => simp [dispatchAll]
  | cons call calls ih =>
    have rest := ih (fun other member => writes other (List.mem_cons_of_mem _ member))
      (dispatch call before).file
    rw [dispatchAll] at rest ⊢
    rw [List.foldl_cons, rest, dispatch_file (writes call (List.mem_cons_self ..)), List.filterMap_cons]
    cases call.letter <;> simp

/-- A line that a call writes tells its alert. -/
theorem letter_tells (room : Nat) {call : DispatchCall K} {line : List Char}
    (written : call.letter = some line) : Tells (room + 4) line call.alert := by
  -- The line is the dead letter of the alert.
  unfold DispatchCall.letter at written
  split at written
  · cases written
    exact deadLetterLine_tells room call.alert call.failedAt _
  · cases written

/-- Alerts that are dispatched in turn, while writing dead letters works: no call raises, each alert is
delivered at its last attempt or kept in one line after three failures, the file keeps what it held and
lists the alerts that were not delivered in the order of the calls, and every line tells its alert. -/
structure NoneLost (room : Nat) (calls : List (DispatchCall K)) (before : List Char) : Prop where
  /-- Each call is accounted for, and makes its attempts in order. -/
  accounted : ∀ earlier call later, calls = earlier ++ call :: later →
    let result := dispatch call (dispatchAll earlier before)
    DeliveredOrKept call (dispatchAll earlier before) result ∧
      result.attempts = (List.range result.attempts.length).map fun attempt => call.deliver (attempt + 1)
  /-- Whatever is written is put behind what was there. -/
  appended : ∀ earlier later, calls = earlier ++ later → before <+: dispatchAll earlier before ∧
    dispatchAll earlier before <+: dispatchAll calls before
  /-- The lines follow the order of the calls. -/
  listed : dispatchAll calls before = before ++ (calls.filterMap DispatchCall.letter).flatten
  /-- Every line is one line, and the alert is read from it. -/
  told : ∀ call ∈ calls, ∀ line, call.letter = some line → Tells room line call.alert
  /-- Equal lines are those of equal alerts. -/
  distinct : ∀ first ∈ calls, ∀ second ∈ calls, ∀ line, first.letter = some line →
    second.letter = some line → first.alert = second.alert

/-- No alert is lost or accounted for twice while writing dead letters works. -/
theorem dispatchAll_noneLost (room : Nat) {calls : List (DispatchCall K)}
    (writes : ∀ call ∈ calls, call.fault = none) (before : List Char) :
    NoneLost (room + 4) calls before where
  -- Each dispatch appends one line or none, so the file only grows.
  accounted := by
    rintro earlier call later rfl
    have works := writes call (by simp)
    exact ⟨dispatch_accounted works _, dispatch_attempts works _⟩
  appended := by
    rintro earlier later rfl
    have first : ∀ call ∈ earlier, call.fault = none := fun call member =>
      writes call (List.mem_append_left _ member)
    rw [dispatchAll_eq writes, dispatchAll_eq first, List.filterMap_append, List.flatten_append,
      ← List.append_assoc]
    exact ⟨List.prefix_append _ _, List.prefix_append _ _⟩
  listed := dispatchAll_eq writes before
  told _ _ _ written := letter_tells room written
  distinct _ _ _ _ _ firstWritten secondWritten :=
    (letter_tells room firstWritten).unique (letter_tells room secondWritten)

/-- An alert about an hour of the day. -/
def hourAlert (id : Uuid) : Alert Int :=
  ⟨id, .critical, "Discovery", recommendedActions .critical, ⟨[⟨"login_hour", 3, "an early login"⟩]⟩,
    ⟨"user-abc", "engineer", [⟨"login_hour", 91⟩]⟩⟩

/-- Of an alert whose channel is down and one that is delivered at once, the first one is kept. -/
theorem dispatchAll_noneLost_down :
    NoneLost 4 [⟨hourAlert 1, fun _ => .raises "channel down", "1970-01-01T00:00:00+00:00", none⟩,
        ⟨hourAlert 2, fun _ => .returns, "1970-01-01T00:00:00+00:00", none⟩] [] ∧
      ([(⟨hourAlert 1, fun _ => .raises "channel down", "1970-01-01T00:00:00+00:00", none⟩ : DispatchCall Int),
        ⟨hourAlert 2, fun _ => .returns, "1970-01-01T00:00:00+00:00", none⟩].filterMap
          DispatchCall.letter).length = 1 :=
  -- The first of two alerts is not delivered.
  ⟨dispatchAll_noneLost 0 (by simp) [], rfl⟩

end Absm
