import Mathlib.Data.Rat.Floor
import Absm.Foundation.DateTime
import Absm.Foundation.Rounding

/-! The check of how long an alert has taken. Floats are the rational numbers that they stand for. -/

namespace Absm

/-- The binary digits of a float. -/
def floatDigits : Nat := 53

/-- The function `timedelta.total_seconds`, which divides whole microseconds and rounds once. -/
def totalSeconds (micros : Int) : ℚ :=
  -- The quotient by a million is rounded once.
  rounded 2 floatDigits (micros / 1000000)

/-- What a check finds. -/
structure SLAStatus where
  /-- Whether the alert has taken too long. -/
  breached : Bool
  /-- How long it has taken. -/
  latencySeconds : ℚ
  /-- How long it may take. -/
  thresholdSeconds : ℚ
  deriving DecidableEq

/-- How long an alert may take when it is not said. -/
def monitoringSlaThresholdSecondsDefault : ℚ := 60.0

/-- Compare the time between an event and its alert with a threshold. -/
def checkSla (ingestTime alertTime : DateTime) (thresholdSeconds : ℚ) : Except PyError SLAStatus := do
  -- A latency that equals the threshold is no breach.
  let latencySeconds := totalSeconds (← alertTime.elapsed ingestTime)
  return ⟨thresholdSeconds < latencySeconds, latencySeconds, thresholdSeconds⟩

end Absm
