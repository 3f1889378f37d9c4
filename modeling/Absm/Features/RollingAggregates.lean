import Absm.Features.PiiScrubber
import Absm.Foundation.ExtFloat

/-! Summary features of a user's events over windows that end at the latest event. -/

namespace Absm

variable {F : Type}

/-- The table `WINDOWS`, with durations in microseconds. -/
def windows : List (String × Int) :=
  -- The order is that of the features.
  [("1h", hourMicros), ("24h", 24 * hourMicros), ("7d", 7 * dayMicros)]

/-- The tuple `METRICS`. -/
def metrics : List String := ["login_hour", "session_duration_s", "bytes_out", "unique_ip_count"]

/-- The mean, deviation and number of some values. -/
structure Stats (F : Type) where
  /-- The mean. -/
  mean : F
  /-- The standard deviation. -/
  std : F
  /-- How many values there are. -/
  count : Nat

variable [Statistics F] [OfScientific F]

/-- Summarize some values; without any the summary is zero. -/
def stats (values : List F) : Except PyError (Stats F) :=
  if values.length = 0 then .ok ⟨0.0, 0.0, 0⟩
  else do
    let mean ← Statistics.fmean values
    -- A single value deviates by zero and is not handed to `pstdev`.
    let std ← (if 1 < values.length then Statistics.pstdev values else .ok 0.0)
    return ⟨mean, std, values.length⟩

/-- Store a summary under the three names of a metric in a window. -/
def setStats (metric window : String) (summary : Stats F) (features : Dict String F) :
    Dict String F :=
  -- Mean, deviation and count are assigned in this order.
  ((features.set (metric ++ "_" ++ window ++ "_mean") summary.mean).set
    (metric ++ "_" ++ window ++ "_std") summary.std).set
    (metric ++ "_" ++ window ++ "_count") (Statistics.ofCount summary.count)

/-- The features of a user without events. -/
def emptyFeatures : Dict String F :=
  -- Every feature is there, window by window and metric by metric.
  windows.foldl (fun features window =>
    metrics.foldl (fun features metric => setStats metric window.1 ⟨0.0, 0.0, 0⟩ features) features)
    .empty

/-- The events between two datetimes, both included. -/
def windowEvents (start reference : DateTime) :
    List (ScrubbedEvent F) → Except PyError (List (ScrubbedEvent F))
  | [] => .ok []
  | event :: events => do
    -- The chained comparison looks at the end only when the start has passed.
    let started ← start.le event.timestamp
    let inside ← (if started then event.timestamp.le reference else .ok false)
    let rest ← windowEvents start reference events
    return if inside then event :: rest else rest

/-- Compute the features of one window from the events inside it. -/
def windowFeatures (window : String) (inside : List (ScrubbedEvent F)) (features : Dict String F) :
    Except PyError (Dict String F) := do
  -- Every event has an hour, so only the other metrics filter.
  let loginHours ← inside.mapM fun event => Statistics.ofInt event.loginHour
  let sessionDurations := inside.filterMap ScrubbedEvent.sessionDurationS
  let bytesOutValues ← (inside.filterMap ScrubbedEvent.bytesOut).mapM Statistics.ofInt
  let uniqueIps := (inside.filterMap fun event => truthyText event.ipHmac).dedup
  let features := setStats "login_hour" window (← stats loginHours) features
  let features := setStats "session_duration_s" window (← stats sessionDurations) features
  let features := setStats "bytes_out" window (← stats bytesOutValues) features
  -- The number of addresses is stored as their mean, without a deviation.
  let uniqueCount := uniqueIps.length
  return setStats "unique_ip_count" window ⟨Statistics.ofCount uniqueCount, 0.0, uniqueCount⟩ features

/-- Compute the features of all windows that end at a reference time. -/
def windowsFeatures (reference : DateTime) (events : List (ScrubbedEvent F)) :
    List (String × Int) → Dict String F → Except PyError (Dict String F)
  | [], features => .ok features
  | (name, duration) :: rest, features => do
    -- A window that would start before year 1 cannot be computed.
    let start ← reference.minus duration
    let inside ← windowEvents start reference events
    let features ← windowFeatures name inside features
    windowsFeatures reference events rest features

/-- Compute the features of some events; counts become the floats of the same value. -/
def computeAggregates : List (ScrubbedEvent F) → Except PyError (Dict String F)
  -- The windows end at the latest timestamp, not at the time of the call.
  | [] => .ok emptyFeatures
  | event :: events => do
    let reference ← DateTime.latest event.timestamp (events.map ScrubbedEvent.timestamp)
    windowsFeatures reference (event :: events) windows .empty

end Absm
