import Absm.Foundation.Python

/-! The reward that an analyst's verdict on an alert earns. -/

namespace Absm

variable {F : Type} [OfScientific F] [Neg F]

/-- The reward of a true positive. -/
def tpReward : F := 1.0

/-- The reward of a false positive. -/
def fpReward : F := -0.5

/-- The reward of a false negative. -/
def fnReward : F := -2.0

/-- The reward of a false negative on a critical alert. -/
def criticalFnReward : F := -4.0

/-- The reward of a verdict on an alert of some severity. -/
def computeReward (beyond : Char → List Char) (verdict severity : String) : Except PyError F :=
  -- The severity matters for false negatives only, in any spelling.
  if verdict = "TP" then .ok tpReward
  else if verdict = "FP" then .ok fpReward
  else if verdict = "FN" then
    if lower beyond severity = "critical" then .ok criticalFnReward else .ok fnReward
  else .error (.valueError "verdict must be one of TP, FP, FN")

end Absm
