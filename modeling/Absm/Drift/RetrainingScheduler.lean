import Absm.Drift.AdwinDetector

/-! The decision to retrain, from a batch of observations and from a detector. -/

namespace Absm

variable {F : Type} [Sub F] [Neg F] [OfScientific F] [BEq F] [LT F] [DecidableLT F] [Statistics F]

/-- The loop over the observations: whether the detector has signalled, or what was raised, and the
detector afterwards. -/
def feedValues (adwinTriggered : Bool) (detector : ADWINDetector F) :
    List F → Except PyError Bool × ADWINDetector F
  | [] => (.ok adwinTriggered, detector)
  | value :: current =>
    match detector.addElement value with
    | (.ok drift, detector) => feedValues (if drift then true else adwinTriggered) detector current
    -- An exception ends the loop, and the other observations are not fed.
    | (.error raised, detector) => (.error raised, detector)

/-- Whether to retrain, given what `ks_2samp` finds about two samples, and the detector afterwards. -/
def checkAndScheduleRetrain (ksPvalue : List F → List F → F) (current reference : List F)
    (detector : ADWINDetector F) : Except PyError Bool × ADWINDetector F :=
  -- Both samples are checked before anything is fed, and one of the two tests is enough.
  if current.isEmpty || reference.isEmpty then
    (.error (.valueError "current and reference must not be empty"), detector)
  else
    let pvalue := ksPvalue current reference
    let (fed, detector) := feedValues false detector current
    (fed.map fun adwinTriggered => pvalue < 0.05 || adwinTriggered, detector)

end Absm
