import Mathlib.Algebra.Order.Floor.Ring
import Mathlib.Algebra.Order.Field.Basic
import Mathlib.Data.Rat.Floor
import Absm.Foundation.OrderStatistics
import Absm.Foundation.Python

/-! The alert threshold that is chosen from validation scores. -/

namespace Absm

variable {K : Type} [Field K] [LinearOrder K] [IsStrictOrderedRing K] [FloorRing K]

/-- The share of false positives that is aimed at when none is asked for. -/
def defaultFprTarget : K := 0.01

/-- The score at the position that leaves the target's share of the scores above it. -/
def calibrate (valScores : List K) (fprTarget : K) : Except PyError K :=
  -- The rank is rounded up and confined to the list.
  if valScores = [] then .error (.valueError "val_scores must not be empty")
  else if ¬ (0.0 < fprTarget ∧ fprTarget < 1.0) then
    .error (.valueError "fpr_target must be between 0 and 1")
  else
    let scores := ascending valScores
    let rank := ⌈(1.0 - fprTarget) * ((scores.length - 1 : Int) : K)⌉
    let index := min (max rank 0) ((scores.length : Int) - 1)
    getItem scores index.toNat

end Absm
