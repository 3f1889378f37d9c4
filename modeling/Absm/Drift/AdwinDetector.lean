import Absm.Foundation.ExtFloat
import Absm.Foundation.Python
import Absm.Foundation.SlidingWindow

/-! The detector that compares the two halves of a sliding window. -/

namespace Absm

variable {F : Type}

/-- A detector with a bounded window. -/
structure ADWINDetector (F : Type) where
  /-- The newest observations, the oldest one first. -/
  window : List F
  /-- How many observations the window can hold. -/
  maxWindow : Nat
  /-- A window holds enough observations to be compared. -/
  largeEnough : 10 ≤ maxWindow
  /-- The window keeps to its bound. -/
  bounded : window.length ≤ maxWindow

/-- The bound of the window when none is given. -/
def defaultMaxWindow : Int := 50

namespace ADWINDetector

/-- The constructor. -/
def init (maxWindow : Int) : Except PyError (ADWINDetector F) :=
  -- The check comes first, so a detector has room for ten observations.
  if small : maxWindow < 10 then .error (.valueError "max_window must be at least 10")
  else .ok ⟨[], maxWindow.toNat, by omega, Nat.zero_le _⟩

/-- Whether the means of the two halves of a window are further apart than one deviation; the summaries of
floats may raise, as over a sum that is too large. -/
def drifted [Sub F] [Neg F] [OfScientific F] [BEq F] [LT F] [DecidableLT F] [Statistics F]
    (window : List F) : Except PyError Bool :=
  if window.length < 10 then .ok false
  else
    let mid := window.length / 2
    let left := window.take mid
    let right := window.drop mid
    -- Halves of ten observations are never that short.
    if left.length < 5 ∨ right.length < 5 then .ok false
    else do
      let leftMean ← Statistics.fmean left
      let rightMean ← Statistics.fmean right
      let combinedStd ← Statistics.pstdev window
      if combinedStd == 0.0 then return false
      else return combinedStd < absolute (leftMean - rightMean)

/-- The detector with one more observation in its window. -/
def observe (detector : ADWINDetector F) (value : F) : ADWINDetector F :=
  -- The oldest observation makes room for the new one.
  { detector with
    window := slide detector.maxWindow detector.window value
    bounded := length_slide_le detector.bounded value }

/-- Add an observation: whether there is a drift now, or what is raised, and the detector afterwards. -/
def addElement [Sub F] [Neg F] [OfScientific F] [BEq F] [LT F] [DecidableLT F] [Statistics F]
    (detector : ADWINDetector F) (value : F) : Except PyError Bool × ADWINDetector F :=
  -- The observation stays in the window even if its summaries raise.
  let detector := detector.observe value
  (drifted detector.window, detector)

/-- The detector without any observations. -/
def reset (detector : ADWINDetector F) : ADWINDetector F :=
  -- The size of the window stays as it was configured.
  { detector with window := [], bounded := Nat.zero_le _ }

end ADWINDetector
end Absm
