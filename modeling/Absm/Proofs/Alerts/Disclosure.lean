import Absm.Alerts.Dispatcher
import Absm.Proofs.Enrich.PeerRanks

/-! What the dead letter of an alert tells about the user. -/

namespace Absm

variable {K : Type} [Field K] [LinearOrder K] [FloatPow K] [FloatCast K] [JsonFloat K]

/-- From a user's features to the payload of the dead letter. -/
def keptPayload (room : Nat) (file : PeerStatsFile) (featureVec : Dict String K) (role : String)
    (explanation : Explanation K) (anomalyScore : K) (reason : String) (userId : String) (alertId : Uuid)
    (failedAt : String) : Except PyError (Json K) := do
  -- The comparison comes first, and what it raises ends the call.
  let peerContext ← compareToPeers room file userId featureVec role
  let alert := buildAlert alertId anomalyScore explanation peerContext userId
  return deadLetterPayload alert failedAt reason

/-- A payload without its random identifier and its time. -/
def withoutChance : Json K → Json K
  -- Identifier and time are drawn anew at each call.
  | .object members => .object (members.filter fun entry => entry.1 ∉ ["alert_id", "failed_at"])
  | other => other

omit [Field K] [LinearOrder K] [FloatPow K] [FloatCast K] [JsonFloat K] in
private theorem peerContext_of_same {alert other : Alert K} {failedAt otherFailedAt reason : String}
    (same : withoutChance (deadLetterPayload alert failedAt reason) =
      withoutChance (deadLetterPayload other otherFailedAt reason)) :
    alert.peerContext.userId = other.peerContext.userId := by
  -- The peer context is a member of what is left, and the user is a member of the peer context.
  simp [withoutChance, deadLetterPayload, PeerContext.asdict] at same
  exact same.2.2.2.2.1

/-- The payloads for two users agree, apart from identifier and time, exactly when the users are the
same or the statistics cannot be compared with, so that there is no payload for either. -/
theorem keptPayload_same_iff (room : Nat) (file : PeerStatsFile) (featureVec : Dict String K)
    (role : String) (explanation : Explanation K) (anomalyScore : K) (reason first second : String)
    (alertId otherId : Uuid) (failedAt otherFailedAt : String) :
    (keptPayload room file featureVec role explanation anomalyScore reason first alertId failedAt).map
        withoutChance =
      (keptPayload room file featureVec role explanation anomalyScore reason second otherId
        otherFailedAt).map withoutChance ↔
    first = second ∨ ¬ PeersComparable room file featureVec role := by
  -- The percentiles do not depend on the user, and the peer context names the user.
  rw [← rankFeatures_ok_iff]
  simp only [keptPayload, compareToPeers]
  cases ranked : rankFeatures room file featureVec role with
  | error error => simp [Except.map]
  | ok ranks =>
    simp only [ok_bind, pure_eq_ok, Except.map, Except.ok.injEq, exists_eq', not_true_eq_false, or_false]
    constructor
    · exact fun same => peerContext_of_same same
    · rintro rfl
      simp [withoutChance, deadLetterPayload, buildAlert]

/-- Fractions as floats; special floats lose their value. -/
instance : JsonFloat ℚ where
  -- Decimal digits are read exactly, and there are no special floats.
  nan := 0
  infinity := 0
  negInfinity := 0
  ofDecimal negative digits exponent := (if negative then -(digits : ℚ) else digits) * 10 ^ exponent

/-- Integers are converted as they are, and no string spells a fraction. -/
instance : FloatCast ℚ where
  -- Every integer is a float of this kind.
  ofInt value := some value
  ofText _ := none

/-- Powers of fractions whose exponent is an integer; others are refused. -/
instance : FloatPow ℚ where
  -- A power with a fraction in its exponent is not rational.
  pow base exponent :=
    if exponent.den = 1 then .ok (base ^ exponent.num)
    else .error (.valueError "the power is not a fraction")

/-- Without any statistics, the payloads for two users differ by their names. -/
theorem keptPayload_named :
    (keptPayload 300 none (.ofList [("login_hour", (3 : ℚ))]) "engineer" ⟨[]⟩ 0.9 "channel down" "alice" 1
        "1970-01-01T00:00:00+00:00").map withoutChance ≠
      (keptPayload 300 none (.ofList [("login_hour", (3 : ℚ))]) "engineer" ⟨[]⟩ 0.9 "channel down" "bob" 1
        "1970-01-01T00:00:00+00:00").map withoutChance := by
  -- A feature without statistics has the percentile of the median, and so both payloads exist.
  have ranked : rankFeatures 300 none (.ofList [("login_hour", (3 : ℚ))]) "engineer" =
      .ok [⟨"login_hour", 50.0⟩] := by
    simp [rankFeatures, loadPeerStats, Json.get, lookupEntry, rankFeature, castFloat, toPercentile,
      Dict.ofList, Dict.set, Dict.empty, setEntry]
  intro same
  simp only [keptPayload, compareToPeers, ranked, ok_bind, pure_eq_ok, Except.map, Except.ok.injEq]
    at same
  have names := peerContext_of_same same
  simp [buildAlert] at names

end Absm
