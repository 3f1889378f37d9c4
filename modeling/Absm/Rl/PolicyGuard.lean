import Absm.Rl.PolicyRuns

/-! The hard limits around the policy, and a process that asks for thresholds through them. -/

namespace Absm

variable {F G : Type}

/-- The lowest threshold that is safe. -/
def minThreshold : ℚ := 3 / 10

/-- The highest threshold that is safe. -/
def maxThreshold : ℚ := 95 / 100

/-- What asking for a threshold raises. -/
inductive GuardError where
  /-- A `PolicyViolationError`. -/
  | policyViolationError (message : String)
  /-- What the wrapped policy raises. -/
  | policyError (error : PyError)
  deriving DecidableEq

variable [FloatRepr F] [FloatCast F] [Zero F] [One F] [Add F] [Sub F] [Mul F] [LE F] [LT F]
  [DecidableLE F] [DecidableLT F]

namespace GuardedPolicy

/-- Ask the wrapped policy for a threshold, and refuse one that is out of range. -/
def getThreshold (source : RandomSource F G) (policy : ContextualBanditPolicy F) (state : State)
    (draws : G) : Except GuardError ℚ × ContextualBanditPolicy F × G :=
  let selected := policy.selectThreshold source state draws
  match selected.1 with
  | .error error => (.error (.policyError error), selected.2)
  | .ok rawAction =>
    if rawAction < minThreshold ∨ maxThreshold < rawAction then
      (.error (.policyViolationError "policy produced out-of-range threshold"), selected.2)
    -- What would be clipped is only logged, and nothing in the range would be.
    else (.ok rawAction, selected.2)

/-- What is asked of a process that guards its policy. -/
inductive Call (F : Type) where
  /-- A threshold is asked for. -/
  | getThreshold (state : State)
  /-- A reward for one of the thresholds is reported. -/
  | update (state : State) (action : ℚ) (valid : action ∈ thresholdActions) (reward : F)

/-- The process after a call, unless the call raises. -/
def step (source : RandomSource F G) (process : PolicyProcess F G) :
    Call F → Option (PolicyProcess F G)
  | .getThreshold state =>
    let asked := getThreshold source process.policy state process.draws
    match asked.1 with
    | .ok threshold =>
      some { process with
        policy := asked.2.1
        draws := asked.2.2
        thresholds := process.thresholds ++ [threshold] }
    | .error _ => none
  -- No save fails here, so an update raises only for a value that is missing.
  | .update state action _ reward =>
    let updated := process.policy.update process.file state action reward .noFault
    if updated.outcome = .returned then
      some { process with policy := updated.policy, file := updated.file }
    else none

end GuardedPolicy
end Absm
