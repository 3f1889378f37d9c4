import Mathlib.Logic.Function.Basic
import Absm.Rl.ThresholdPolicy

/-! Processes that use the policy over time: one that is restarted, and several that share a file. -/

namespace Absm

variable {F G ι : Type} [FloatRepr F] [FloatCast F] [Zero F] [One F] [Add F] [Sub F] [Mul F]
  [LE F] [LT F] [DecidableLE F] [DecidableLT F]

/-! ### One process -/

/-- A process with a policy, and what it has been told so far. -/
structure PolicyProcess (F G : Type) [Zero F] [One F] [LE F] [LT F] where
  /-- The file of the table. -/
  file : QFile
  /-- The policy in memory. -/
  policy : ContextualBanditPolicy F
  /-- The random draws to come. -/
  draws : G
  /-- The thresholds that were returned, the oldest first. -/
  thresholds : List ℚ

/-- What happens to the process. -/
inductive PolicyCall (F : Type) where
  /-- A threshold is asked for. -/
  | select (state : State)
  /-- A reward for one of the thresholds is reported. -/
  | update (state : State) (action : ℚ) (valid : action ∈ thresholdActions) (reward : F)
  /-- The process ends and a new one constructs its policy from the file. -/
  | restart

/-- Whether a call is a restart. -/
def PolicyCall.isRestart : PolicyCall F → Bool
  | .restart => true
  | _ => false

/-- The process after a call, unless the call raises. -/
def PolicyProcess.step (room : Nat) (source : RandomSource F G) (process : PolicyProcess F G) :
    PolicyCall F → Option (PolicyProcess F G)
  | .select state =>
    let selected := process.policy.selectThreshold source state process.draws
    match selected.1 with
    | .ok threshold =>
      some { process with
        policy := selected.2.1
        draws := selected.2.2
        thresholds := process.thresholds ++ [threshold] }
    | .error _ => none
  -- No save fails here, so an update raises only for a value that is missing.
  | .update state action _ reward =>
    let updated := process.policy.update process.file state action reward .noFault
    if updated.outcome = .returned then
      some { process with policy := updated.policy, file := updated.file }
    else none
  -- File, draws and past thresholds outlive the process; the table in memory does not.
  | .restart =>
    match ContextualBanditPolicy.init room process.policy.epsilon process.policy.alpha
      process.file with
    | .ok policy => some { process with policy }
    | .error _ => none

/-! ### Workers -/

/-- A file and the policies of the workers that share it, as far as they have been constructed. -/
structure SharedPolicies (ι F : Type) [Zero F] [One F] [LE F] [LT F] where
  /-- The file of the table. -/
  file : QFile
  /-- The policy of every worker. -/
  policies : ι → Option (ContextualBanditPolicy F)

/-- What a worker does, in one piece. -/
inductive WorkerCall (ι F : Type) where
  /-- It constructs its policy, which loads the table. -/
  | construct (worker : ι)
  /-- It updates its policy, which saves the table. -/
  | update (worker : ι) (state : State) (action : ℚ) (reward : F)

/-- File and policies after a call, unless the worker has no policy or the call raises. -/
def SharedPolicies.step [DecidableEq ι] (room : Nat) (epsilon alpha : ι → F)
    (shared : SharedPolicies ι F) : WorkerCall ι F → Option (SharedPolicies ι F)
  | .construct worker =>
    match ContextualBanditPolicy.init room (epsilon worker) (alpha worker) shared.file with
    | .ok policy =>
      some { shared with policies := Function.update shared.policies worker (some policy) }
    | .error _ => none
  | .update worker state action reward =>
    match shared.policies worker with
    | none => none
    | some policy =>
      -- The save overwrites the file with the private table.
      let updated := policy.update shared.file state action reward .noFault
      if updated.outcome = .returned then
        some ⟨updated.file, Function.update shared.policies worker (some updated.policy)⟩
      else none

end Absm
