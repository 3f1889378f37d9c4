import Absm.Proofs.Foundation.JsonLines
import Absm.Proofs.Rl.FeedbackLog

/-! What can be read of the verdicts after some of the writes have failed halfway. -/

namespace Absm

variable {K : Type} [FloatRepr K]

/-- How verdicts are written and read. -/
def feedbackRows (K : Type) [FloatRepr K] : RowFormat K FeedbackRecord FeedbackRecord where
  -- The first key starts with a plain letter, so a torn line cannot be taken for more.
  members record := [("alert_id", .str record.alertId), ("verdict", .str record.verdict),
    ("reason", .str record.reason), ("analyst_id", .str record.analystId),
    ("timestamp", .str record.timestamp)]
  depth := 1
  row record := .of_key (c := 'a') rfl (by decide) fun room => printable_asdict room record
  value := id
  ofDocument := FeedbackRecord.ofDocument
  ofDocument_members record := by
    have read := readRecord_dump (K := K) 0 record
    rw [readRecord, loads_dump (printable_asdict 0 record)] at read
    exact read

/-- The lines of the file, for a reader that goes by some line breaks. -/
def feedbackLines (K : Type) [FloatRepr K] (room : Nat) (breaks : LineBreaks) :
    LineFormat Char FeedbackRecord FeedbackRecord :=
  -- The same format as for any log of rows.
  (feedbackRows K).lines room breaks.isBreak breaks.newline breaks.visible

/-- The records that can be read from a file, leaving out the lines that cannot. -/
def readableRecords (K : Type) [FloatRepr K] (room : Nat) (breaks : LineBreaks) (log : Option (List Char)) :
    List FeedbackRecord :=
  -- Lines that are no record are passed over.
  (linesOf breaks.isBreak (log.getD [])).filterMap (readRecord K room)

/-- What a call writes: a line that reaches the file up to its fault, unless the verdict is refused. -/
def FeedbackCall.write (K : Type) [FloatRepr K] (call : FeedbackCall) (fault : Option Nat) :
    Option (LogWrite FeedbackRecord) :=
  -- Without a fault the whole line is written.
  if allowed : call.verdict ∈ allowedVerdicts then
    some ⟨call.record allowed, fault.getD (recordLine K (call.record allowed)).length⟩
  else none

/-- What some calls write. -/
def feedbackWrites (K : Type) [FloatRepr K] (calls : List (FeedbackCall × Option Nat)) :
    List (LogWrite FeedbackRecord) :=
  -- Refused calls write nothing.
  calls.filterMap fun call => call.1.write K call.2

/-- Without a fault, the calls do what they do when writing works. -/
theorem collectAllFaulty_none (calls : List FeedbackCall) (log : Option (List Char)) :
    collectAllFaulty K (calls.map fun call => (call, none)) log = collectAll K calls log := by
  -- By induction on the calls, since each one is the same without a fault.
  induction calls generalizing log with
  | nil => rfl
  | cons call calls ih =>
    simp only [List.map_cons, collectAllFaulty, collectAll, collectFeedbackFaulty, ih]

/-- What the first call writes comes first. -/
theorem feedbackWrites_cons (call : FeedbackCall) (fault : Option Nat)
    (calls : List (FeedbackCall × Option Nat)) :
    feedbackWrites K ((call, fault) :: calls) = (call.write K fault).toList ++ feedbackWrites K calls := by
  -- One call writes at most one line.
  rw [feedbackWrites, List.filterMap_cons]
  cases call.write K fault <;> rfl

/-- An allowed verdict is put behind what the file holds, up to the fault, and a fault is raised. -/
theorem collectFeedbackFaulty_allowed {call : FeedbackCall} (allowed : call.verdict ∈ allowedVerdicts)
    (fault : Option Nat) (log : Option (List Char)) :
    collectFeedbackFaulty K call fault log =
      (if fault = none then .ok (call.record allowed) else .error .osError,
        some (log.getD [] ++ (recordLine K (call.record allowed)).take
          (fault.getD (recordLine K (call.record allowed)).length))) := by
  -- Without a fault the whole line is written.
  cases fault with
  | none => simp [collectFeedbackFaulty, collectFeedback_allowed allowed]
  | some reached =>
    simp only [collectFeedbackFaulty, validateVerdict, allowed, dif_pos, reduceCtorEq, if_false,
      Option.getD_some]
    rfl

/-- Any other verdict leaves the file alone. -/
theorem collectFeedbackFaulty_refused {call : FeedbackCall} (refused : call.verdict ∉ allowedVerdicts)
    (fault : Option Nat) (log : Option (List Char)) :
    collectFeedbackFaulty K call fault log =
      (.error (.valueError "verdict must be one of TP, FP, FN"), log) := by
  -- A fault of the write does not matter to a call that never writes.
  cases fault with
  | none => exact collectFeedback_refused refused log
  | some reached => simp only [collectFeedbackFaulty, validateVerdict, refused, dif_neg, not_false_eq_true]

section Lines

variable (room : Nat) (breaks : LineBreaks)

/-- A call puts what it writes behind what the file holds. -/
theorem collectFeedbackFaulty_log (call : FeedbackCall) (fault : Option Nat) (log : Option (List Char)) :
    (collectFeedbackFaulty K call fault log).2.getD [] = log.getD [] ++
      (feedbackLines K room breaks).file (call.write K fault).toList := by
  -- A refused verdict writes nothing.
  by_cases allowed : call.verdict ∈ allowedVerdicts
  · rw [collectFeedbackFaulty_allowed allowed, FeedbackCall.write, dif_pos allowed, Option.toList_some,
      LineFormat.file, List.flatMap_singleton]
    rfl
  · rw [collectFeedbackFaulty_refused allowed, FeedbackCall.write, dif_neg allowed]
    exact (List.append_nil _).symm

/-- Behind what it held, the file holds what the calls have written. -/
theorem collectAllFaulty_log (calls : List (FeedbackCall × Option Nat)) (log : Option (List Char)) :
    (collectAllFaulty K calls log).2.getD [] =
      log.getD [] ++ (feedbackLines K room breaks).file (feedbackWrites K calls) := by
  -- The calls that follow go on with the file that the first one leaves.
  induction calls generalizing log with
  | nil => exact (List.append_nil _).symm
  | cons call calls ih =>
    obtain ⟨call, fault⟩ := call
    simp only [collectAllFaulty]
    rw [ih, collectFeedbackFaulty_log room breaks, List.append_assoc, feedbackWrites_cons, LineFormat.file,
      LineFormat.file, ← List.flatMap_append, ← LineFormat.file]

/-- A call that returns a record has written its whole line. -/
theorem length_returned_le (call : FeedbackCall) (fault : Option Nat) (log : Option (List Char)) :
    (returnedRecords [(collectFeedbackFaulty K call fault log).1]).length ≤
      (call.write K fault).toList.countP ((feedbackLines K room breaks).Complete ·) := by
  -- A fault is raised, so that only whole lines come with a record.
  by_cases allowed : call.verdict ∈ allowedVerdicts
  · rw [collectFeedbackFaulty_allowed allowed, FeedbackCall.write, dif_pos allowed]
    cases fault with
    | none =>
      have complete : (feedbackLines K room breaks).Complete
          ⟨call.record allowed, (recordLine K (call.record allowed)).length⟩ := by
        rw [recordLine, List.length_append]
        exact Nat.lt_succ_self _
      simp [returnedRecords, Except.toOption, complete]
    | some reached => exact Nat.zero_le _
  · rw [collectFeedbackFaulty_refused allowed]
    exact Nat.zero_le _

/-- The calls that return a record have written whole lines. -/
theorem length_returnedRecords_le (calls : List (FeedbackCall × Option Nat)) (log : Option (List Char)) :
    (returnedRecords (collectAllFaulty K calls log).1).length ≤
      (feedbackWrites K calls).countP ((feedbackLines K room breaks).Complete ·) := by
  -- The bound holds of the first call and of those that follow.
  induction calls generalizing log with
  | nil => exact Nat.zero_le _
  | cons call calls ih =>
    obtain ⟨call, fault⟩ := call
    simp only [collectAllFaulty]
    rw [returnedRecords_cons, List.length_append, feedbackWrites_cons, List.countP_append]
    exact Nat.add_le_add (length_returned_le room breaks call fault log) (ih _)

end Lines

/-- Calls that are made one after another, from no file on, when writing may fail halfway: the records that
can be read are those whose writes are not lost, they are in the order of the calls, and each torn write
costs at most one record that was returned. -/
structure LossesBounded (K : Type) [FloatRepr K] (room : Nat) (breaks : LineBreaks)
    (calls : List (FeedbackCall × Option Nat)) : Prop where
  /-- A record is read if its line is whole and not begun by another write. -/
  readable : readableRecords K (room + 1) breaks (collectAllFaulty K calls none).2 =
    (feedbackLines K room breaks).kept false (feedbackWrites K calls)
  /-- Nothing else is read, and nothing twice. -/
  ordered : (readableRecords K (room + 1) breaks (collectAllFaulty K calls none).2).Sublist
    ((feedbackWrites K calls).map LogWrite.entry)
  /-- The losses are bounded. -/
  bounded : (returnedRecords (collectAllFaulty K calls none).1).length ≤
    (readableRecords K (room + 1) breaks (collectAllFaulty K calls none).2).length +
      (feedbackWrites K calls).countP ((feedbackLines K room breaks).Torn ·)

/-- However writes fail, at most one returned record is lost for each torn write. -/
theorem collectAllFaulty_lossesBounded (room : Nat) (breaks : LineBreaks)
    (calls : List (FeedbackCall × Option Nat)) : LossesBounded K room breaks calls := by
  -- The file is that of the writes, and the library says what is read from it.
  have readable : readableRecords K (room + 1) breaks (collectAllFaulty K calls none).2 =
      (feedbackLines K room breaks).kept false (feedbackWrites K calls) := by
    have file := collectAllFaulty_log (K := K) room breaks calls none
    rw [Option.getD_none, List.nil_append] at file
    rw [readableRecords, file]
    exact LineFormat.read_file (feedbackLines K room breaks) (feedbackWrites K calls)
  refine ⟨readable, ?_, ?_⟩
  · rw [readable]
    exact LineFormat.kept_sublist false _
  · rw [readable]
    exact (length_returnedRecords_le room breaks calls none).trans (LineFormat.countP_complete_le false _)

/-- Of four verdicts, one is torn and the next one is lost with it, though its record was returned. -/
example :
    let calls : List (FeedbackCall × Option Nat) := [(⟨"a1", "TP", "", "b", "t"⟩, none),
      (⟨"a2", "FP", "", "b", "t"⟩, some 20), (⟨"a3", "FN", "", "b", "t"⟩, none),
      (⟨"a4", "TP", "", "b", "t"⟩, none)]
    (readableRecords Int 1 .newlines (collectAllFaulty Int calls none).2).map FeedbackRecord.alertId = ["a1", "a4"] ∧
      (returnedRecords (collectAllFaulty Int calls none).1).map FeedbackRecord.alertId = ["a1", "a3", "a4"] := by
  decide +kernel

end Absm
