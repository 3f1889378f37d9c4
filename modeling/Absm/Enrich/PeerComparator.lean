import Absm.Alerts.AlertBuilder
import Absm.Foundation.Python

/-! Comparing a user's features with the statistics of peers in the same role. -/

namespace Absm

/-- The built-in `pow` on floats. -/
class FloatPow (K : Type) where
  /-- The power of a base, or the error for one that is too large. -/
  pow (base exponent : K) : Except PyError K

variable {K : Type}

/-- The name of the class of a value. -/
def Json.typeName : Json K → String
  -- The names that Python gives to what `json` reads.
  | .null => "NoneType"
  | .bool _ => "bool"
  | .int _ => "int"
  | .float _ => "float"
  | .str _ => "str"
  | .array _ => "list"
  | .object _ => "dict"

/-- The method `get` of a value that should be a dictionary. -/
def Json.get (document : Json K) (key : String) (fallback : Json K) : Except PyError (Json K) :=
  -- Only dictionaries have the method; everything else lacks the attribute.
  match document with
  | .object members => .ok ((lookupEntry key members).getD fallback)
  | other => .error (.attributeError ("'" ++ other.typeName ++ "' object has no attribute 'get'"))

/-- The text of the file of statistics, if there is one. -/
abbrev PeerStatsFile := Option (List Char)

/-- Load the statistics of all roles, of which there are none without a file. -/
def loadPeerStats [JsonFloat K] (room : Nat) : PeerStatsFile → Except PyError (Json K)
  -- A missing file means no statistics, and a document that is no object is refused.
  | none => .ok (.object [])
  | some text =>
    match loads room text with
    | .error error => .error error.toPyError
    | .ok (.object members) => .ok (.object members)
    | .ok _ => .error (.typeError "peer stats must be a JSON object")

section Arithmetic

variable [LT K] [DecidableLT K]

/-- The built-in `min`, which keeps the first of equal values. -/
def pyMin (first second : K) : K :=
  -- The first argument is kept unless the second one is less, also when that is no number.
  if second < first then second else first

/-- The built-in `max`, which keeps the first of equal values. -/
def pyMax (first second : K) : K :=
  -- The first argument is kept unless the second one is greater.
  if first < second then second else first

variable [LE K] [DecidableLE K] [Add K] [Sub K] [Mul K] [Div K] [Neg K] [OfScientific K] [FloatPow K]

/-- The percentile of a value by its distance from the mean. -/
def toPercentile (value mean std : K) : Except PyError K :=
  if std ≤ 0.0 then .ok 50.0
  else do
    let zScore := (value - mean) / std
    -- The power raises before anything is confined.
    let power ← FloatPow.pow 2.718281828 (-1.702 * zScore)
    let percentile := 100.0 / (1.0 + power)
    return pyMax 0.0 (pyMin 100.0 percentile)

variable [Zero K] [One K] [FloatCast K]

/-- The percentile of one feature; without statistics it is compared with itself. -/
def rankFeature (roleStats : Json K) (feature : String × K) : Except PyError (PeerFeatureRank K) := do
  -- Without statistics the feature is compared with itself and no deviation, which ranks it in the middle.
  let featureStats ← roleStats.get feature.1 (.object [])
  let mean ← castFloat (← featureStats.get "mean" (.float feature.2))
  let std ← castFloat (← featureStats.get "std" (.float 0.0))
  return ⟨feature.1, ← toPercentile feature.2 mean std⟩

variable [JsonFloat K]

/-- The percentiles of all features; the user has no part in them. -/
def rankFeatures (room : Nat) (file : PeerStatsFile) (featureVec : Dict String K) (role : String) :
    Except PyError (List (PeerFeatureRank K)) := do
  -- A role that the file does not know has no statistics.
  let allStats ← loadPeerStats room file
  let roleStats ← allStats.get role (.object [])
  featureVec.entries.mapM (rankFeature roleStats)

/-- Compare a user's features with those of peers in a role. -/
def compareToPeers (room : Nat) (file : PeerStatsFile) (userId : String) (featureVec : Dict String K)
    (role : String) : Except PyError (PeerContext K) := do
  -- One feature that cannot be ranked leaves the user without a comparison.
  let ranks ← rankFeatures room file featureVec role
  return ⟨userId, role, ranks⟩

end Arithmetic

end Absm
