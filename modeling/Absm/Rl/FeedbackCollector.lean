import Absm.Foundation.Json
import Absm.Foundation.Python

/-! Collecting the verdicts of analysts in a file with one line for each. -/

namespace Absm

/-- The verdicts that may be given. -/
def allowedVerdicts : List String := ["TP", "FP", "FN"]

/-- A verdict that may be given. -/
abbrev AllowedVerdict := { verdict : String // verdict ∈ allowedVerdicts }

/-- A verdict, if it may be given. -/
def validateVerdict (verdict : String) : Except PyError AllowedVerdict :=
  -- Only the three literals pass, in this spelling.
  if allowed : verdict ∈ allowedVerdicts then .ok ⟨verdict, allowed⟩
  else .error (.valueError "verdict must be one of TP, FP, FN")

/-- What is kept of a verdict on an alert. -/
structure FeedbackRecord where
  /-- The alert. -/
  alertId : String
  /-- The verdict. -/
  verdict : AllowedVerdict
  /-- Why it was given. -/
  reason : String
  /-- Who gave it. -/
  analystId : String
  /-- When it was given. -/
  timestamp : String
  deriving DecidableEq

/-- A call of `collect_feedback`, and the time it meets. -/
structure FeedbackCall where
  /-- The alert. -/
  alertId : String
  /-- The verdict, which need not be one that may be given. -/
  verdict : String
  /-- Why it is given. -/
  reason : String
  /-- Who gives it. -/
  analystId : String
  /-- The text of the current time. -/
  now : String

section Log

variable (K : Type)

/-- What `asdict` makes of a record. -/
def FeedbackRecord.asdict (record : FeedbackRecord) : Json K :=
  -- The fields stand in the order of the dataclass.
  .object [("alert_id", .str record.alertId), ("verdict", .str record.verdict),
    ("reason", .str record.reason), ("analyst_id", .str record.analystId),
    ("timestamp", .str record.timestamp)]

variable [FloatRepr K]

/-- The file after a line for the record was appended. It is created for the first one. -/
def appendJsonlRecord (record : FeedbackRecord) (log : Option (List Char)) : List Char :=
  -- The file is opened for appending, so it is created if there is none.
  log.getD [] ++ (dump (record.asdict K) ++ ['\n'])

/-- What a call returns or raises, and the file after it. -/
def collectFeedback (call : FeedbackCall) (log : Option (List Char)) :
    Except PyError FeedbackRecord × Option (List Char) :=
  -- A verdict that is refused leaves the log alone.
  match validateVerdict call.verdict with
  | .error error => (.error error, log)
  | .ok verdict =>
    let record := ⟨call.alertId, verdict, call.reason, call.analystId, call.now⟩
    (.ok record, some (appendJsonlRecord K record log))

/-- What calls return or raise one after another, and the file after the last one. -/
def collectAll : List FeedbackCall → Option (List Char) →
    List (Except PyError FeedbackRecord) × Option (List Char)
  -- Each call finds the log as the one before has left it.
  | [], log => ([], log)
  | call :: calls, log =>
    let (answer, next) := collectFeedback K call log
    let (answers, final) := collectAll calls next
    (answer :: answers, final)

/-- What a call returns or raises, and the file after it, when writing the line may fail: of the failing
write, some characters have reached the file. -/
def collectFeedbackFaulty (call : FeedbackCall) (fault : Option Nat) (log : Option (List Char)) :
    Except PyError FeedbackRecord × Option (List Char) :=
  -- A torn write raises, with the first characters of the line in the file.
  match fault, validateVerdict call.verdict with
  | none, _ => collectFeedback K call log
  | some _, .error error => (.error error, log)
  | some reached, .ok verdict =>
    let record : FeedbackRecord := ⟨call.alertId, verdict, call.reason, call.analystId, call.now⟩
    (.error .osError, some (log.getD [] ++ (dump (record.asdict K) ++ ['\n']).take reached))

/-- What such calls return or raise one after another, and the file after the last one. -/
def collectAllFaulty : List (FeedbackCall × Option Nat) → Option (List Char) →
    List (Except PyError FeedbackRecord) × Option (List Char)
  -- A call that raises does not keep the next one from being made.
  | [], log => ([], log)
  | (call, fault) :: calls, log =>
    let (answer, next) := collectFeedbackFaulty K call fault log
    let (answers, final) := collectAllFaulty calls next
    (answer :: answers, final)

end Log

end Absm
