import Absm.Alerts.AlertBuilder
import Absm.Foundation.Python

/-! Delivering alerts with a bounded number of attempts, and keeping those that are not delivered. -/

namespace Absm

variable {K : Type}

/-! ### The dead letter of an alert -/

/-- The last hexadecimal digits of a number. -/
def hexText : Nat → Nat → List Char
  -- The last digit is the remainder, and the digits before it are those of the quotient.
  | 0, _ => []
  | digits + 1, value => hexText digits (value / 16) ++ [hexChar (value % 16)]

/-- What `str` makes of an identifier: five groups of digits. -/
def uuidText (id : Uuid) : String :=
  -- Hyphens stand behind eight, twelve, sixteen and twenty digits.
  let digits := hexText 32 id.toNat
  String.ofList (digits.take 8 ++ '-' :: ((digits.drop 8).take 4 ++ '-' :: ((digits.drop 12).take 4 ++
    '-' :: ((digits.drop 16).take 4 ++ '-' :: digits.drop 20))))

/-- The literal of a severity. -/
def Severity.text : Severity → String
  -- The values of the enumeration, as `asdict` leaves them and `json.dumps` writes them.
  | .critical => "critical"
  | .high => "high"
  | .medium => "medium"
  | .low => "low"

/-- What `asdict` makes of a contribution. -/
def FeatureContribution.asdict (contribution : FeatureContribution K) : Json K :=
  .object [("feature_name", .str contribution.featureName),
    ("contribution", .float contribution.contribution),
    ("description", .str contribution.description)]

/-- What `asdict` makes of an explanation. -/
def Explanation.asdict (explanation : Explanation K) : Json K :=
  .object [("top_features", .array (explanation.topFeatures.map FeatureContribution.asdict))]

/-- What `asdict` makes of a percentile. -/
def PeerFeatureRank.asdict (rank : PeerFeatureRank K) : Json K :=
  .object [("feature_name", .str rank.featureName), ("percentile_rank", .float rank.percentileRank)]

/-- What `asdict` makes of a peer context. -/
def PeerContext.asdict (context : PeerContext K) : Json K :=
  .object [("user_id", .str context.userId), ("role", .str context.role),
    ("feature_percentiles", .array (context.featurePercentiles.map PeerFeatureRank.asdict))]

/-- The payload that is kept of an alert which was not delivered. -/
def deadLetterPayload (alert : Alert K) (failedAt reason : String) : Json K :=
  -- The dictionary of the alert, and behind it the two keys that the dead letter adds.
  .object [("alert_id", .str (uuidText alert.alertId)), ("severity", .str alert.severity.text),
    ("mitre_tactic", .str alert.mitreTactic),
    ("recommended_actions", .array (alert.recommendedActions.map .str)),
    ("explanation", alert.explanation.asdict), ("peer_context", alert.peerContext.asdict),
    ("failed_at", .str failedAt), ("reason", .str reason)]

/-- The line that is kept of it. -/
def deadLetterLine [FloatRepr K] (alert : Alert K) (failedAt reason : String) : List Char :=
  -- The newline ends the line, so the next dead letter starts a line of its own.
  dump (deadLetterPayload alert failedAt reason) ++ ['\n']

/-- Append the line to the file, unless the file system refuses. -/
def writeDeadLetter [FloatRepr K] (fault : Option PyError) (alert : Alert K) (failedAt reason : String)
    (file : List Char) : Except PyError (List Char) :=
  -- A write either raises before it changes the file or appends the whole line.
  match fault with
  | none => .ok (file ++ deadLetterLine alert failedAt reason)
  | some error => .error error

/-! ### Dispatching -/

/-- How an attempt to deliver ends. -/
inductive Delivery where
  /-- It returns. -/
  | returns
  /-- It raises an exception of some text. -/
  | raises (reason : String)
  deriving DecidableEq, Repr

/-- A call of `dispatch`, and what it meets. -/
structure DispatchCall (K : Type) where
  /-- The alert. -/
  alert : Alert K
  /-- How each attempt to deliver it ends. -/
  deliver : Nat → Delivery
  /-- The time at which it is given up, as a text. -/
  failedAt : String
  /-- What writing the dead letter raises, if anything. -/
  fault : Option PyError

/-- How a call ended, and what it did. -/
structure Dispatched where
  /-- What it returned or raised. -/
  outcome : Except PyError Unit
  /-- The attempts to deliver, in order. -/
  attempts : List Delivery
  /-- The pauses between them, in seconds. -/
  slept : List ℚ
  /-- The file of dead letters afterwards. -/
  file : List Char

/-- The constant `max_attempts`. -/
def maxAttempts : Nat := 3

/-- The loop over the attempts that are left. -/
def attemptDelivery [FloatRepr K] (call : DispatchCall K) (file : List Char) :
    Nat → Nat → List Delivery → List ℚ → Dispatched
  -- What is left counts down so that the recursion ends; the attempt is the loop variable of the source.
  | 0, _, attempts, slept => ⟨.ok (), attempts, slept, file⟩
  | left + 1, attempt, attempts, slept =>
    match call.deliver attempt with
    | .returns => ⟨.ok (), attempts ++ [.returns], slept, file⟩
    | .raises reason =>
      if attempt = maxAttempts then
        match writeDeadLetter call.fault call.alert call.failedAt reason file with
        | .ok file => ⟨.ok (), attempts ++ [.raises reason], slept, file⟩
        | .error error => ⟨.error error, attempts ++ [.raises reason], slept, file⟩
      else
        attemptDelivery call file left (attempt + 1) (attempts ++ [.raises reason])
          (slept ++ [0.1 * 2 ^ (attempt - 1)])

/-- Dispatch an alert. -/
def dispatch [FloatRepr K] (call : DispatchCall K) (file : List Char) : Dispatched :=
  -- Nothing has been attempted yet, and the first attempt has the number one.
  attemptDelivery call file maxAttempts 1 [] []

/-- Dispatch an alert when writing the dead letter may fail halfway: of a failing write, some characters have
reached the file. -/
def dispatchFaulty [FloatRepr K] (call : DispatchCall K) (reached : Nat) (file : List Char) : Dispatched :=
  match call.fault with
  | none => dispatch call file
  | some _ =>
    -- What the write would have put behind the file, had it worked.
    let added := (dispatch { call with fault := none } file).file.drop file.length
    { dispatch call file with file := file ++ added.take reached }

/-- What some dispatches do in turn, and the file of dead letters after the last one. -/
def dispatchAllFaulty [FloatRepr K] : List (DispatchCall K × Nat) → List Char → List Dispatched × List Char
  -- Each call finds the file as the one before has left it, torn or not.
  | [], file => ([], file)
  | (call, reached) :: calls, file =>
    let dispatched := dispatchFaulty call reached file
    let (others, final) := dispatchAllFaulty calls dispatched.file
    (dispatched :: others, final)

/-- The file of dead letters after some alerts were dispatched in turn. -/
def dispatchAll [FloatRepr K] (calls : List (DispatchCall K)) (file : List Char) : List Char :=
  -- What a call returns or raises does not keep the next one from being made.
  calls.foldl (fun file call => (dispatch call file).file) file

end Absm
