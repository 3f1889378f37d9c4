import Absm.Foundation.Lines
import Absm.Proofs.Alerts.DeadLetters
import Absm.Rl.FeedbackCollector
import Absm.Rl.RewardCalculator

/-! The file of verdicts grows line by line, and its lines are the records that were returned. -/

namespace Absm

/-! ### One verdict -/

/-- The record that a call makes of an allowed verdict. -/
def FeedbackCall.record (call : FeedbackCall) (allowed : call.verdict ∈ allowedVerdicts) :
    FeedbackRecord :=
  -- The verdict is known to be one of the three.
  ⟨call.alertId, ⟨call.verdict, allowed⟩, call.reason, call.analystId, call.now⟩

/-- The verdicts that earn a reward are those that may be given, whatever the severity. -/
theorem computeReward_ok_iff {G : Type} [OfScientific G] [Neg G] (beyond : Char → List Char)
    (verdict severity : String) :
    (∃ reward : G, computeReward beyond verdict severity = .ok reward) ↔
      verdict ∈ allowedVerdicts := by
  -- Each of the three verdicts has a branch of its own, and the last branch is left for all others.
  simp only [allowedVerdicts, List.mem_cons, List.not_mem_nil, or_false]
  unfold computeReward
  split_ifs <;> simp_all

section Log

variable {K : Type} [FloatRepr K] {call : FeedbackCall}

/-- The line that is kept of a record. -/
def recordLine (K : Type) [FloatRepr K] (record : FeedbackRecord) : List Char :=
  -- The document and the newline are written together.
  dump (record.asdict K) ++ ['\n']

/-- An allowed verdict is put behind what the file holds. -/
theorem collectFeedback_allowed (allowed : call.verdict ∈ allowedVerdicts)
    (log : Option (List Char)) :
    collectFeedback K call log =
      (.ok (call.record allowed), some (log.getD [] ++ recordLine K (call.record allowed))) := by
  -- The check passes, and the line goes to the end of the log.
  rw [collectFeedback, validateVerdict, dif_pos allowed]
  rfl

/-- Any other verdict leaves the file alone. -/
theorem collectFeedback_refused (refused : call.verdict ∉ allowedVerdicts)
    (log : Option (List Char)) :
    collectFeedback K call log =
      (.error (.valueError "verdict must be one of TP, FP, FN"), log) := by
  -- The check comes before the file is opened.
  rw [collectFeedback, validateVerdict, dif_neg refused]

/-- A call returns exactly if its verdict may be given. -/
theorem collectFeedback_ok_iff (log : Option (List Char)) :
    (∃ record, (collectFeedback K call log).1 = .ok record) ↔ call.verdict ∈ allowedVerdicts := by
  -- The verdict decides alone.
  by_cases allowed : call.verdict ∈ allowedVerdicts
  · simp [collectFeedback_allowed allowed, allowed]
  · simp [collectFeedback_refused allowed, allowed]

/-- A call raises a `ValueError` exactly if its verdict may not be given. -/
theorem collectFeedback_valueError_iff (log : Option (List Char)) :
    (∃ message, (collectFeedback K call log).1 = .error (.valueError message)) ↔
      call.verdict ∉ allowedVerdicts := by
  -- No other error can be raised.
  by_cases allowed : call.verdict ∈ allowedVerdicts
  · simp [collectFeedback_allowed allowed, allowed]
  · simp [collectFeedback_refused allowed, allowed]

/-! ### One line -/

/-- Read a record out of a document. -/
def FeedbackRecord.ofDocument (document : Json K) : Option FeedbackRecord := do
  -- All five fields are read, and the verdict is checked again.
  let alertId ← (← document.member? "alert_id").text?
  let verdict ← (← document.member? "verdict").text?
  let reason ← (← document.member? "reason").text?
  let analystId ← (← document.member? "analyst_id").text?
  let timestamp ← (← document.member? "timestamp").text?
  if allowed : verdict ∈ allowedVerdicts then
    some ⟨alertId, ⟨verdict, allowed⟩, reason, analystId, timestamp⟩
  else none

/-- Read a record out of a line. -/
def readRecord (K : Type) [FloatRepr K] (room : Nat) (line : List Char) : Option FeedbackRecord :=
  -- A line that is no document gives no record.
  match (loads room line : Except LoadsError (Json K)) with
  | .ok document => FeedbackRecord.ofDocument document
  | .error _ => none

omit [FloatRepr K] in
private theorem ofDocument_asdict (record : FeedbackRecord) :
    FeedbackRecord.ofDocument (record.asdict K) = some record := by
  -- The keys are distinct, and the verdict of a record may be given.
  have allowed := record.verdict.property
  simp [FeedbackRecord.ofDocument, FeedbackRecord.asdict, Json.member?, lookupEntry, Json.text?,
    allowed]

omit [FloatRepr K] in
/-- A record is written as a mapping of strings. -/
theorem printable_asdict (room : Nat) (record : FeedbackRecord) :
    Printable (room + 1) (record.asdict K) := by
  -- All values are strings.
  refine .object (by simp) fun entry member => ?_
  simp only [List.mem_cons, List.not_mem_nil, or_false] at member
  rcases member with rfl | rfl | rfl | rfl | rfl
  all_goals exact .str _

/-- The line of a record is read as this record. -/
theorem readRecord_dump (room : Nat) (record : FeedbackRecord) :
    readRecord K (room + 1) (dump (record.asdict K)) = some record := by
  -- The document is read back, and then the record from it.
  rw [readRecord, loads_dump (printable_asdict room record)]
  exact ofDocument_asdict record

/-! ### The file -/

/-- The records that calls have returned. -/
def returnedRecords (answers : List (Except PyError FeedbackRecord)) : List FeedbackRecord :=
  -- In the order of the calls.
  answers.filterMap Except.toOption

/-- The records that are returned first come first. -/
theorem returnedRecords_cons (answer : Except PyError FeedbackRecord)
    (answers : List (Except PyError FeedbackRecord)) :
    returnedRecords (answer :: answers) = returnedRecords [answer] ++ returnedRecords answers := by
  -- A refused call adds nothing.
  cases answer <;> rfl

/-- A call adds the line of the record that it returns, and nothing if it raises. -/
theorem collectFeedback_log (call : FeedbackCall) (log : Option (List Char)) :
    (collectFeedback K call log).2.getD [] =
      log.getD [] ++ (returnedRecords [(collectFeedback K call log).1]).flatMap (recordLine K) := by
  -- Either the line of the record is added or nothing.
  by_cases allowed : call.verdict ∈ allowedVerdicts
  · simp [collectFeedback_allowed allowed, returnedRecords, Except.toOption]
  · rw [collectFeedback_refused allowed]
    exact (List.append_nil _).symm

/-- Behind what it held, the file holds the lines of the records that were returned. -/
theorem collectAll_log (calls : List FeedbackCall) (log : Option (List Char)) :
    (collectAll K calls log).2.getD [] =
      log.getD [] ++ (returnedRecords (collectAll K calls log).1).flatMap (recordLine K) := by
  -- The calls that follow go on with the file that the first one leaves.
  induction calls generalizing log with
  | nil => simp [collectAll, returnedRecords]
  | cons call calls ih =>
    simp only [collectAll]
    rw [ih, collectFeedback_log call log, List.append_assoc, ← List.flatMap_append,
      ← returnedRecords_cons]

/-- Calls go on where the calls before them have stopped. -/
theorem collectAll_append (earlier later : List FeedbackCall) (log : Option (List Char)) :
    (collectAll K (earlier ++ later) log).2 =
      (collectAll K later (collectAll K earlier log).2).2 := by
  -- By induction on the earlier calls.
  induction earlier generalizing log with
  | nil => rfl
  | cons call earlier ih =>
    simp only [List.cons_append, collectAll]
    exact ih _

/-- What a reader of the file takes for line breaks: the one that ends each line, and perhaps other
characters, but none in printable ASCII. -/
structure LineBreaks where
  /-- Whether a character is a line break. -/
  isBreak : Char → Bool
  /-- The one that is written is. -/
  newline : isBreak '\n' = true
  /-- Printable ASCII is not. -/
  visible : ∀ c, Visible c → isBreak c = false

/-- The line breaks between which the lines of an open file stand. -/
def LineBreaks.newlines : LineBreaks where
  -- As a file is read line by line.
  isBreak c := c = '\n'
  newline := rfl
  visible := by
    intro c visible
    simp only [decide_eq_false_iff_not]
    rintro rfl
    exact absurd visible (by decide)

/-- The line breaks of `str.splitlines`. -/
def LineBreaks.splitlines : LineBreaks where
  -- The boundaries of `str.splitlines`.
  isBreak c := c.toNat ∈ [0x0A, 0x0B, 0x0C, 0x0D, 0x1C, 0x1D, 0x1E, 0x85, 0x2028, 0x2029]
  newline := by decide
  visible := by
    intro c visible
    obtain ⟨low, high⟩ := visible
    simp only [List.mem_cons, List.not_mem_nil, or_false, decide_eq_false_iff_not]
    omega

/-- The lines of the file are what was written of the records that were returned. -/
theorem linesOf_collectAll (breaks : LineBreaks) (calls : List FeedbackCall) :
    linesOf breaks.isBreak ((collectAll K calls none).2.getD []) =
      (returnedRecords (collectAll K calls none).1).map fun record => dump (record.asdict K) := by
  -- No line break stands inside a line.
  rw [collectAll_log, Option.getD_none, List.nil_append]
  refine linesOf_flatMap breaks.newline ?_
  intro record _ c member
  exact breaks.visible c (visible_of_mem_dump (printable_asdict 0 record) member)

/-- Whoever splits the file at all line breaks sees the same lines as whoever reads it line by line. -/
theorem linesOf_splitlines (calls : List FeedbackCall) :
    linesOf LineBreaks.splitlines.isBreak ((collectAll K calls none).2.getD []) =
      linesOf LineBreaks.newlines.isBreak ((collectAll K calls none).2.getD []) := by
  -- The lines that are written hold breaks of neither kind.
  rw [linesOf_collectAll, linesOf_collectAll]

/-- The lines of the file are read as the records that were returned. -/
theorem collectAll_lines (room : Nat) (breaks : LineBreaks) (calls : List FeedbackCall) :
    (linesOf breaks.isBreak ((collectAll K calls none).2.getD [])).map (readRecord K (room + 1)) =
      (returnedRecords (collectAll K calls none).1).map some := by
  -- Each line is the document of its record.
  rw [linesOf_collectAll, List.map_map]
  simp only [Function.comp_def, readRecord_dump]

/-! ### The history -/

/-- Calls that are made one after another, from no file on: those whose verdict may not be given raise
a `ValueError` and leave the file as it is, all others extend it, nothing that was written is
changed, the lines are read as the records that were returned, and the verdicts that earn a reward
are those of the calls that returned. -/
structure Replayable (K G : Type) [FloatRepr K] [OfScientific G] [Neg G] (room : Nat)
    (beyond : Char → List Char) (calls : List FeedbackCall) : Prop where
  /-- Each call raises or extends the file. -/
  answered : ∀ earlier call later, calls = earlier ++ call :: later →
    let log := (collectAll K earlier none).2
    let result := collectFeedback K call log
    ((∃ message, result.1 = .error (.valueError message)) ↔ call.verdict ∉ allowedVerdicts) ∧
      (call.verdict ∉ allowedVerdicts → result.2 = log) ∧
      (call.verdict ∈ allowedVerdicts → ∃ record line, line ≠ [] ∧
        result = (.ok record, some (log.getD [] ++ line)))
  /-- What the file holds at some point stays at its beginning. -/
  appended : ∀ earlier later, calls = earlier ++ later →
    (collectAll K earlier none).2.getD [] <+: (collectAll K calls none).2.getD []
  /-- The lines are the records, in the order of the calls. -/
  replayed : ∀ breaks : LineBreaks,
    (linesOf breaks.isBreak ((collectAll K calls none).2.getD [])).map (readRecord K room) =
      (returnedRecords (collectAll K calls none).1).map some
  /-- A verdict earns a reward exactly if the call returns. -/
  rewarded : ∀ call ∈ calls, ∀ severity log,
    (∃ reward : G, computeReward beyond call.verdict severity = .ok reward) ↔
      ∃ record, (collectFeedback K call log).1 = .ok record

/-- The history of verdicts is only appended to, and it can be replayed. -/
theorem collectAll_replayable {G : Type} [OfScientific G] [Neg G] (room : Nat)
    (beyond : Char → List Char) (calls : List FeedbackCall) :
    Replayable K G (room + 1) beyond calls where
  -- One call decides by itself, and a run adds to the log only.
  answered := by
    intro earlier call later _ log result
    refine ⟨collectFeedback_valueError_iff log, ?_, ?_⟩
    · intro refused
      exact congrArg Prod.snd (collectFeedback_refused refused log)
    · intro allowed
      exact ⟨_, _, by simp [recordLine], collectFeedback_allowed allowed log⟩
  appended := by
    rintro earlier later rfl
    rw [collectAll_append, collectAll_log later]
    exact List.prefix_append _ _
  replayed breaks := collectAll_lines room breaks calls
  rewarded call _ severity log :=
    (computeReward_ok_iff beyond call.verdict severity).trans (collectFeedback_ok_iff log).symm

example :
    (collectAll Int [⟨"a\"1", "TP", "two\nlines", "é", "t"⟩, ⟨"a2", "MAYBE", "", "b", "u"⟩] none).2 =
      some ("\x7b\"alert_id\":\"a\\\"1\",\"verdict\":\"TP\",\"reason\":\"two\\nlines\"," ++
        "\"analyst_id\":\"\\u00e9\",\"timestamp\":\"t\"\x7d\n").toList := by decide +kernel

end Log

end Absm
