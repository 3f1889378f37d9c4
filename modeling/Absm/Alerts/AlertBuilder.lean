import Mathlib.Algebra.Order.Field.Rat
import Absm.Foundation.Dict
import Absm.Ingest.Schema

/-! Alerts as analysts receive them. -/

namespace Absm

variable {K : Type}

/-- How urgent an alert is. -/
inductive Severity where
  /-- Worth a look at the trend. -/
  | low
  /-- Worth a review. -/
  | medium
  /-- Worth a second analyst. -/
  | high
  /-- Worth an incident. -/
  | critical
  deriving DecidableEq, Repr

/-- The place of a severity among the tiers. -/
def Severity.tier : Severity → Nat
  -- The tiers only fix an order; the source knows severities as literals.
  | .low => 0
  | .medium => 1
  | .high => 2
  | .critical => 3

instance : LE Severity := ⟨fun lower upper => lower.tier ≤ upper.tier⟩

instance (lower upper : Severity) : Decidable (lower ≤ upper) :=
  inferInstanceAs (Decidable (lower.tier ≤ upper.tier))

/-- How much one feature contributed to a score. -/
structure FeatureContribution (K : Type) where
  /-- The feature. -/
  featureName : String
  /-- Its contribution. -/
  contribution : K
  /-- The contribution in words. -/
  description : String

/-- The features that contributed most, the strongest first. -/
structure Explanation (K : Type) where
  /-- The contributions. -/
  topFeatures : List (FeatureContribution K)

/-- Where one feature of a user stands among peers. -/
structure PeerFeatureRank (K : Type) where
  /-- The feature. -/
  featureName : String
  /-- Its percentile. -/
  percentileRank : K

/-- Where a user stands among peers of one role. -/
structure PeerContext (K : Type) where
  /-- The user. -/
  userId : String
  /-- The role. -/
  role : String
  /-- The percentiles. -/
  featurePercentiles : List (PeerFeatureRank K)

/-- An alert. -/
structure Alert (K : Type) where
  /-- The random identifier. -/
  alertId : Uuid
  /-- How urgent it is. -/
  severity : Severity
  /-- The tactic that the strongest feature points at. -/
  mitreTactic : String
  /-- What analysts should do. -/
  recommendedActions : List String
  /-- Why the score is what it is. -/
  explanation : Explanation K
  /-- How peers behave. -/
  peerContext : PeerContext K

/-- The tactics that features point at. -/
def featureToMitreTactic : Dict String String :=
  -- Features that are not listed have the tactic that `mitreTacticFromExplanation` falls back on.
  .ofList [("privileged_command_rate", "Privilege Escalation"),
    ("credential_stuffing_signals", "Credential Access"),
    ("beaconing_score", "Command and Control"), ("data_exfil_score", "Exfiltration"),
    ("impossible_travel_score", "Initial Access")]

/-- The tier of a score. -/
def severityFromScore [Field K] [LinearOrder K] (anomalyScore : K) : Severity :=
  -- The bounds themselves belong to the lower tier.
  if anomalyScore > 0.8 then .critical
  else if anomalyScore > 0.6 then .high
  else if anomalyScore > 0.4 then .medium
  else .low

/-- The tactic of the strongest feature. -/
def mitreTacticFromExplanation (explanation : Explanation K) : String :=
  -- Only the first of the top features counts.
  match explanation.topFeatures with
  | [] => "Discovery"
  | top :: _ => featureToMitreTactic.getD top.featureName "Discovery"

/-- What analysts should do at each tier. -/
def recommendedActions : Severity → List String
  -- One list for each severity, each in the source's order.
  | .critical => ["Isolate endpoint", "Disable account session", "Open incident bridge"]
  | .high => ["Review account activity", "Validate MFA events", "Escalate to Tier 2"]
  | .medium => ["Queue analyst review", "Correlate with recent alerts"]
  | .low => ["Monitor trend", "Re-evaluate if repeated"]

/-- The alert for a score, under a fresh identifier; the user is not made part of it. -/
def buildAlert [Field K] [LinearOrder K] (alertId : Uuid) (anomalyScore : K)
    (explanation : Explanation K) (peerContext : PeerContext K) (_userId : String) : Alert K :=
  -- The user's id is an argument that nothing reads.
  let severity := severityFromScore anomalyScore
  { alertId, severity, mitreTactic := mitreTacticFromExplanation explanation,
    recommendedActions := recommendedActions severity, explanation, peerContext }

end Absm
