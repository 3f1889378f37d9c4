import Mathlib.Algebra.Order.Floor.Ring
import Mathlib.Data.List.Sort
import Mathlib.Data.Rat.Cast.OfScientific
import Absm.Alerts.AlertBuilder
import Absm.Foundation.Fallible
import Absm.Foundation.Python

/-! The explanation of one behaviour vector by the features that SHAP attributes most to. -/

namespace Absm

/-- The features, in the order of a behaviour vector. -/
def featureNames : List String :=
  -- The order is that of the columns of the feature vector.
  ["login_hour", "session_duration_s", "bytes_out", "unique_ip_count", "failure_ratio",
    "geo_velocity", "device_switch_rate", "new_ip_ratio", "offhours_access",
    "sensitive_data_access", "privilege_change_events", "download_volume", "upload_volume",
    "api_call_rate", "process_spawn_rate", "command_entropy", "dns_query_rate", "http_error_rate",
    "vpn_toggle_rate", "mfa_bypass_signals", "token_refresh_rate", "session_count",
    "remote_admin_tool_use", "impossible_travel_score", "endpoint_alert_rate",
    "malware_indicator_rate", "phishing_indicator_rate", "credential_stuffing_signals",
    "bruteforce_signals", "lateral_movement_signals", "beaconing_score", "data_exfil_score",
    "privileged_command_rate", "new_device_count", "resource_access_spike",
    "service_account_usage", "role_change_frequency", "access_denied_ratio",
    "suspicious_attachment_rate", "macro_execution_signals", "script_execution_rate",
    "registry_modification_rate", "kernel_event_rate", "memory_injection_signals",
    "persistence_indicator_rate", "cloud_admin_action_rate", "iam_policy_change_rate",
    "storage_bucket_access_spike", "db_query_anomaly_score", "container_escape_signals",
    "k8s_privilege_escalation_signals", "secrets_access_rate", "external_share_rate",
    "unusual_app_install_rate", "new_process_lineage_rate", "log_tamper_signals",
    "threat_intel_match_rate", "edr_suppression_signals", "unusual_timezone_access",
    "credential_reset_rate", "new_geo_location_rate", "admin_panel_access_rate",
    "sso_failure_ratio", "risky_oauth_grant_rate"]

/-- The name of the feature at an index. -/
def featureName (index : Nat) : String :=
  -- A column behind the last name is called by its number.
  match featureNames[index]? with
  | some name => name
  | none => "feature_" ++ toString index

/-! ### Descriptions -/

/-- The characters of `str.title` in ASCII, after a letter or not. -/
def titleChars : Bool → List Char → List Char
  -- A letter behind a letter is in lower case, as in `str.title`.
  | _, [] => []
  | afterLetter, c :: rest =>
    (if afterLetter then c.toLower else c.toUpper) :: titleChars c.isAlpha rest

/-- A number that is not negative with one decimal, a tie going to the even one. -/
def oneDecimal {K : Type} [Field K] [LinearOrder K] [FloorRing K] (sigma : K) : String :=
  -- Tenths are rounded half to even, as the format with one digit does.
  let tenths := ⌊10.0 * sigma⌋
  let rest := 10.0 * sigma - tenths
  let rounded := if rest < 0.5 ∨ rest = 0.5 ∧ tenths % 2 = 0 then tenths else tenths + 1
  toString (rounded / 10) ++ "." ++ toString (rounded % 10)

/-- A contribution in words. -/
def descriptionFor {K : Type} [Field K] [LinearOrder K] [FloorRing K] (featureName : String)
    (contribution : K) : String :=
  -- A contribution of zero counts as an increase.
  let direction := if 0.0 ≤ contribution then "increased" else "decreased"
  let sigma := absolute contribution
  let spaced := featureName.toList.map fun c => if c = '_' then ' ' else c
  String.ofList (titleChars false spaced) ++ " deviated " ++ direction ++ " " ++ oneDecimal sigma ++
    "sigma from baseline"

/-! ### Attributions -/

/-- A number, or a list of such. -/
inductive Nested (K : Type) where
  /-- A number. -/
  | number (value : K)
  /-- A list. -/
  | list (items : List (Nested K))

namespace Nested

variable {K : Type}

/-- The built-in `float` on a number or a list. -/
def toFloat : Nested K → Except PyError K
  -- A list in place of a number is what a model with several outputs makes of the first row.
  | .number value => .ok value
  | .list _ => .error (.typeError "float() argument must be a string or a real number, not 'list'")

/-- The first item of a list. -/
def first : Nested K → Except PyError (Nested K)
  -- The first item of a list, as the subscript zero takes it.
  | .number _ => .error (.typeError "'float' object is not subscriptable")
  | .list items => getItem items 0

end Nested

/-- The explainers of the library, each made for a function and a background and called on samples; what
they return are the values, if there are any, as nested lists. -/
structure Shap (K : Type) where
  /-- Make an explainer and call it. -/
  explainer : {m k : Nat} → (List (Fin m → K) → List (Fin k → K)) → (background : List (Fin m → K)) →
    (samples : List (Fin m → K)) → Except PyError (Option (Nested K))

variable {K : Type} [Field K] [LinearOrder K] [FloorRing K] {L : Type}

/-- The function that is explained: what each vector differs by from its reconstruction. -/
def wrappedFn (model : (Fin 64 → K) → (Fin 64 → K) × L) (arr : List (Fin 64 → K)) :
    List (Fin 64 → K) :=
  -- The baseline is subtracted although it is zero, as in the source.
  arr.map fun x =>
    let baseline : Fin 64 → K := 0
    let (reconstructed, _) := model x
    (x - reconstructed) - baseline

/-- The tensor of one vector. -/
def tensorOf (featureVec : List K) (size : featureVec.length = 64) : List (Fin 64 → K) :=
  -- The vector becomes a batch of one row.
  [fun i => featureVec.get (i.cast size.symm)]

/-- The contribution of the feature at an index. -/
def contributionOf (val : K) (idx : Nat) : FeatureContribution K :=
  -- Name and description belong to the index, and the value is handed in.
  ⟨featureName idx, val, descriptionFor (featureName idx) val⟩

/-- The three features with the greatest contributions to the output of a model for a vector. -/
def explain (shap : Shap K) (featureVec : List K) (model : (Fin 64 → K) → (Fin 64 → K) × L) :
    Except PyError (Explanation K) :=
  if featureVec.length = 0 then .error (.valueError "feature_vec must not be empty")
  else if size : featureVec.length = 64 then do
    let tensor := tensorOf featureVec size
    let shapResult ← shap.explainer (wrappedFn model) tensor tensor
    match shapResult with
    | none => .error (.valueError "SHAP did not return contribution values")
    | some values =>
      match ← values.first with
      | .number _ => .error (.typeError "SHAP result row has unexpected shape")
      | .list row =>
        let indexed := (← row.mapM Nested.toFloat).zipIdx
        -- Sorting in reverse keeps the order of equal items.
        let ranked := indexed.insertionSort fun left right => absolute right.1 ≤ absolute left.1
        return ⟨(ranked.take 3).map fun item => contributionOf item.1 item.2⟩
  else .error (.valueError "feature_vec must contain exactly 64 features for the current model")

end Absm
