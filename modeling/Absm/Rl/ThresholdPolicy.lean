import Mathlib.Data.Rat.Defs
import Absm.Foundation.Python

/-! The bandit policy that learns alert thresholds, and the file that its table is kept in. -/

namespace Absm

variable {F G : Type}

/-- The context of a decision. -/
structure State where
  /-- The role of the user. -/
  userRole : String
  /-- The hour of the day. -/
  hourBucket : Int
  deriving DecidableEq

/-- The thresholds that can be chosen. -/
def thresholdActions : List ℚ := [3 / 10, 4 / 10, 5 / 10, 6 / 10, 7 / 10, 8 / 10]

/-- `str` of a float between zero and one that has one decimal. -/
def actionKey (action : ℚ) : String :=
  -- One digit behind the point, since the actions are tenths.
  s!"0.{(action * 10).num}"

/-- The key of a context in the table. -/
def stateKey (state : State) : String :=
  -- Role and bucket are joined with a bar.
  state.userRole ++ "|" ++ toString state.hourBucket

/-- The learned value of every action in every context that has been seen. -/
abbrev QTable (F : Type) := Dict String (Dict String F)

/-- The text in the file, if the file exists. -/
abbrev QFile := Option (List Char)

/-! ### Loading and saving -/

/-- One action of a context with its value. -/
def parseAction [FloatCast F] [Zero F] [One F] (entry : String × Json F) :
    Except PyError (String × F) := do
  -- The value may be any number or a text that spells a float.
  let value ← castFloat entry.2
  return (entry.1, value)

/-- One context with the values of its actions. -/
def parseState [FloatCast F] [Zero F] [One F] (entry : String × Json F) :
    Except PyError (String × Dict String F) :=
  -- The keys of a document are strings anyway, so only the value is checked.
  match entry.2 with
  | .object actionMap => do
    let actions ← actionMap.mapM parseAction
    return (entry.1, .ofList actions)
  | _ => .error (.typeError "Q-table structure is invalid")

/-- Read the table, where a missing file stands for an empty one. -/
def loadQTable [FloatRepr F] [FloatCast F] [Zero F] [One F] (room : Nat) :
    QFile → Except PyError (QTable F)
  | none => .ok .empty
  | some text =>
    match loads room text with
    -- What the parser raises is not caught.
    | .error error => .error error.toPyError
    | .ok (.object data) => do
      let parsed ← data.mapM parseState
      return .ofList parsed
    | .ok _ => .error (.typeError "Q-table file must contain a JSON object")

/-- The table as a document. -/
def tableJson (table : QTable F) : Json F :=
  -- States and actions stand in the order in which they were added.
  .object (table.entries.map fun entry =>
    (entry.1, .object (entry.2.entries.map fun value => (value.1, .float value.2))))

/-- The text of a table, with nothing between its tokens. -/
def tableText [FloatRepr F] (table : QTable F) : List Char := dump (tableJson table)

/-- What can go wrong while the table is saved. -/
inductive SaveFault where
  /-- Nothing. -/
  | noFault
  /-- The directory cannot be made or the file cannot be opened. -/
  | openFails
  /-- A write fails, after which some characters at the end are missing in the file. -/
  | writeFails (missing : Nat)
  /-- Closing the file fails, after which some characters at the end are missing in the file. -/
  | closeFails (missing : Nat)
  /-- The process is killed before the file is opened. -/
  | killedBeforeOpen
  /-- The process is killed when some characters at the end are not yet in the file. -/
  | killedWriting (missing : Nat)
  deriving DecidableEq

/-- How a call ends. -/
inductive Outcome where
  /-- It returns. -/
  | returned
  /-- It raises. -/
  | raised (error : PyError)
  /-- The process is gone before it ends. -/
  | killed
  deriving DecidableEq

/-- The text of a table without some characters at its end. -/
def partialText [FloatRepr F] (table : QTable F) (missing : Nat) : List Char :=
  -- A write that is cut off leaves a part of the text.
  (tableText table).take ((tableText table).length - missing)

/-- Write the table over the file, which opening empties. -/
def saveQTable [FloatRepr F] (table : QTable F) (file : QFile) : SaveFault → Outcome × QFile
  | .noFault => (.returned, some (tableText table))
  -- Whatever fails before the file is opened leaves it alone.
  | .openFails => (.raised .osError, file)
  -- From then on the file holds what has reached it, be it nothing.
  | .writeFails missing => (.raised .osError, some (partialText table missing))
  | .closeFails missing => (.raised .osError, some (partialText table missing))
  | .killedBeforeOpen => (.killed, file)
  | .killedWriting missing => (.killed, some (partialText table missing))

/-! ### The policy -/

section Policy

variable [FloatRepr F] [FloatCast F] [Zero F] [One F] [Add F] [Sub F] [Mul F] [LE F] [LT F]
  [DecidableLE F] [DecidableLT F]

/-- A policy, with parameters that the constructor accepted. -/
structure ContextualBanditPolicy (F : Type) [Zero F] [One F] [LE F] [LT F] where
  /-- How often a random action is tried. -/
  epsilon : F
  /-- How far a value moves towards a reward. -/
  alpha : F
  /-- The table in memory. -/
  qTable : QTable F
  /-- The exploration rate is a probability. -/
  epsilonInRange : 0 ≤ epsilon ∧ epsilon ≤ 1
  /-- The learning rate is a positive share. -/
  alphaInRange : 0 < alpha ∧ alpha ≤ 1

/-- What random choices are drawn from: a float, or a position among the actions. -/
structure RandomSource (F G : Type) where
  /-- `random.random`. -/
  random : G → F × G
  /-- The position that `random.choice` takes. -/
  choice : G → Fin thresholdActions.length × G

namespace ContextualBanditPolicy

/-- The constructor: check the parameters and load the table. -/
def init (room : Nat) (epsilon alpha : F) (file : QFile) :
    Except PyError (ContextualBanditPolicy F) :=
  -- The accepted ranges go into the policy as its invariant.
  if epsilonInRange : 0 ≤ epsilon ∧ epsilon ≤ 1 then
    if alphaInRange : 0 < alpha ∧ alpha ≤ 1 then do
      let qTable ← loadQTable room file
      return ⟨epsilon, alpha, qTable, epsilonInRange, alphaInRange⟩
    else .error (.valueError "alpha must be in (0, 1]")
  else .error (.valueError "epsilon must be in [0, 1]")

/-- The action values of a context, created as zeros when the context is new. -/
def ensureState (table : QTable F) (key : String) : QTable F × Dict String F :=
  -- A new state has the value zero for every action.
  match table.get? key with
  | some values => (table, values)
  | none =>
    let values := .ofList (thresholdActions.map fun action => (actionKey action, 0))
    (table.set key values, values)

/-- The value of an action, which must be there. -/
def valueAt (values : Dict String F) (action : ℚ) : Except PyError F :=
  -- A table that was loaded may lack an action.
  match values.get? (actionKey action) with
  | some value => .ok value
  | none => .error (.keyError (actionKey action))

/-- Go on with `max`, which keeps the first of equally good actions. -/
def bestFrom (values : Dict String F) : ℚ → F → List ℚ → Except PyError ℚ
  | best, _, [] => .ok best
  | best, bestValue, action :: actions => do
    let value ← valueAt values action
    -- An equal value does not displace an earlier action.
    if bestValue < value then bestFrom values action value actions
    else bestFrom values best bestValue actions

/-- The first action of greatest value. -/
def bestAction (values : Dict String F) : Except PyError ℚ :=
  -- The first action is the candidate, and a later one must have a greater value.
  match thresholdActions with
  | [] => .error (.valueError "max() iterable argument is empty")
  | action :: actions => do
    let value ← valueAt values action
    bestFrom values action value actions

/-- Choose a threshold: now and then at random, else the best one. -/
def selectThreshold (source : RandomSource F G) (policy : ContextualBanditPolicy F) (state : State)
    (draws : G) : Except PyError ℚ × ContextualBanditPolicy F × G :=
  -- A context that is new is created in memory and not saved.
  let ensured := ensureState policy.qTable (stateKey state)
  let policy := { policy with qTable := ensured.1 }
  let drawn := source.random draws
  -- A second draw is made for a random action only.
  if drawn.1 < policy.epsilon then
    let chosen := source.choice drawn.2
    (.ok (thresholdActions.get chosen.1), policy, chosen.2)
  else (bestAction ensured.2, policy, drawn.2)

/-- What an update leaves behind. -/
structure Updated (F : Type) [Zero F] [One F] [LE F] [LT F] where
  /-- How the call ended. -/
  outcome : Outcome
  /-- The policy in memory, if the process is still there. -/
  policy : ContextualBanditPolicy F
  /-- The file. -/
  file : QFile

/-- Move the value of an action towards a reward and save the table. -/
def update (policy : ContextualBanditPolicy F) (file : QFile) (state : State) (action : ℚ)
    (reward : F) (fault : SaveFault) : Updated F :=
  if action ∈ thresholdActions then
    let ensured := ensureState policy.qTable (stateKey state)
    match valueAt ensured.2 action with
    -- A loaded context need not have every action.
    | .error error => ⟨.raised error, { policy with qTable := ensured.1 }, file⟩
    | .ok oldValue =>
      -- The table in memory changes first, whatever becomes of the save.
      let newValue := oldValue + policy.alpha * (reward - oldValue)
      let qTable := ensured.1.set (stateKey state) (ensured.2.set (actionKey action) newValue)
      let saved := saveQTable qTable file fault
      ⟨saved.1, { policy with qTable }, saved.2⟩
  else
    ⟨.raised (.valueError "action must be one of the configured threshold actions"), policy, file⟩

end ContextualBanditPolicy
end Policy
end Absm
