import Mathlib.Algebra.Order.Field.Basic
import Mathlib.Data.Rat.Cast.OfScientific
import Absm.Foundation.OrderStatistics
import Absm.Foundation.Python
import Absm.Foundation.SlidingWindow

/-! The alarm on a model's reconstruction errors. -/

namespace Absm

/-- What a health check finds. -/
structure HealthStatus (K : Type) where
  /-- Whether the model is healthy. -/
  healthy : Bool
  /-- The 95th percentile of the errors. -/
  p95Error : K
  /-- What has been found. -/
  statusMessage : String

/-- The newest reconstruction errors of a model, and the percentile that they are compared with. -/
structure ModelHealthMonitor (K : Type) [Field K] [LinearOrder K] where
  /-- The percentile of a healthy model. -/
  baselineP95 : K
  /-- How many errors are kept. -/
  maxErrors : Nat
  /-- The errors, the oldest one first. -/
  errors : List K
  /-- Errors are expected. -/
  positive : 0 < baselineP95
  /-- Some errors are kept. -/
  keeps : 0 < maxErrors
  /-- No more errors are kept than may be. -/
  bounded : errors.length ≤ maxErrors

/-- How many errors are kept when it is not said. -/
def defaultMaxErrors : Int := 1000

variable {K : Type} [Field K] [LinearOrder K]

/-- The baseline that the settings have when it is not configured. -/
def monitoringModelBaselineP95Default : K := 0.5

/-! ### Percentiles -/

/-- A cut point of `statistics.quantiles`, between two neighbours in ascending order. -/
def cutPoint (sorted : List K) (n i : Nat) : Except PyError K := do
  -- The cut lies between two neighbours, in the proportion of the remainder.
  let m := sorted.length - 1
  let j := i * m / n
  let delta := i * m % n
  let lower ← getItem sorted j
  let upper ← getItem sorted (j + 1)
  return (lower * (n - delta : Nat) + upper * (delta : Nat)) / n

/-- The function `statistics.quantiles` with the inclusive method. -/
def quantiles (data : List K) (n : Nat) : Except PyError (List K) :=
  -- The two checks are those of `statistics.quantiles`.
  if n < 1 then .error (.valueError "n must be at least 1")
  else if data.length < 2 then .error (.valueError "must have at least two data points")
  else (List.range' 1 (n - 1)).mapM (cutPoint (ascending data) n)

namespace ModelHealthMonitor

/-! ### The monitor -/

/-- The constructor, given the baseline in the settings. -/
def init (settingsBaseline : K) (baselineP95 : Option K) (maxErrors : Int) :
    Except PyError (ModelHealthMonitor K) :=
  -- An explicit baseline replaces the configured one.
  let resolvedBaseline := baselineP95.getD settingsBaseline
  if notPositive : resolvedBaseline ≤ 0 then .error (.valueError "baseline_p95 must be positive")
  else if none : maxErrors ≤ 0 then .error (.valueError "max_errors must be positive")
  else .ok ⟨resolvedBaseline, maxErrors.toNat, [], not_le.mp notPositive, by omega, by simp⟩

/-- Record an error, in place of the oldest one if too many are kept. -/
def recordError (monitor : ModelHealthMonitor K) (error : K) : ModelHealthMonitor K :=
  -- The oldest error makes room for the new one.
  { monitor with
    errors := slide monitor.maxErrors monitor.errors error
    bounded := length_slide_le monitor.bounded error }

/-- The 95th percentile of errors, of which there is one. -/
def p95 (errors : List K) : Except PyError K :=
  -- One error is its own percentile, since one point has no quantiles.
  if errors.length = 1 then getItem errors 0
  else do
    let percentiles ← quantiles errors 100
    getItem percentiles 94

/-- Compare the errors with the baseline. -/
def checkHealth (monitor : ModelHealthMonitor K) : Except PyError (HealthStatus K) :=
  -- Too high is looked for before too low, and both bounds themselves are healthy.
  if monitor.errors.isEmpty then .ok ⟨true, 0.0, "healthy: no errors recorded yet"⟩
  else do
    let p95Error ← p95 monitor.errors
    let highThreshold := monitor.baselineP95 * 2.0
    let lowThreshold := monitor.baselineP95 * 0.1
    if highThreshold < p95Error then
      return ⟨false, p95Error, "unhealthy: p95 reconstruction error exceeded 2x baseline"⟩
    if p95Error < lowThreshold then
      return ⟨false, p95Error, "unhealthy: p95 reconstruction error fell below 0.1x baseline"⟩
    return ⟨true, p95Error, "healthy: p95 within baseline bounds"⟩

end ModelHealthMonitor
end Absm
