import Absm.Ingest.Schema

/-! Adapting payloads of differing spelling to the event models. -/

namespace Absm

variable {F : Type}

/-- The table `FIELD_ALIASES`. -/
def fieldAliases : List (String × List String) :=
  -- The names are tried in this order, behind the field's own one.
  [("user_id", ["userId", "user", "uid"]),
    ("timestamp", ["time", "ts", "eventTime"]),
    ("event_type", ["eventType", "type"]),
    ("ip", ["ipAddress", "ip_address"]),
    ("email", ["emailAddress", "email_address"]),
    ("session_duration_s", ["sessionDurationS", "sessionDuration", "session_duration"]),
    ("bytes_out", ["bytesOut"])]

/-- The table `EVENT_TYPE_ALIASES`. -/
def eventTypeAliases : List (String × String) :=
  -- A type that is not listed stays as it is.
  [("authentication", "auth"), ("login", "auth"), ("net", "network"), ("network_event", "network"),
    ("file_access", "file"), ("file_event", "file")]

/-- What a caller hands to the normalizer: a mapping from field names, or anything else. -/
inductive Raw (F : Type) where
  /-- A `dict`. -/
  | mapping (fields : Dict String (Value F))
  /-- A value of another type. -/
  | other (value : Value F)

/-- The value that a JSON document denotes, as the normalizer receives it. -/
def Raw.ofJson : Json F → Raw F
  -- A payload that is no object cannot be subscripted with names.
  | .object members => .mapping (Dict.ofList (members.map fun entry => (entry.1, .json entry.2)))
  | value => .other (.json value)

/-- The value of a canonical field under its own name or the first alias that is present. -/
def extractValue (raw : Dict String (Value F)) (canonical : String) : Value F :=
  match raw.get? canonical with
  -- A canonical field that is present wins, even if it is `None`.
  | some value => value
  | none =>
    (((lookupEntry canonical fieldAliases).getD []).findSome? raw.get?).getD .none

/-- The canonical fields of a payload, without those that are `None`. -/
def resolveFields (raw : Dict String (Value F)) : Dict String (Value F) :=
  -- A field that is found nowhere, or only with `None`, is left out.
  modelFields.foldl (fun normalized field =>
    if (extractValue raw field).isNone then normalized
    else normalized.set field (extractValue raw field)) .empty

/-- Validate a payload as an event of the type that it names; none when it is dropped. -/
def normalize (runtime : Runtime F) : Raw F → Option (Event F)
  | .other _ => none
  | .mapping raw => do
    let normalized := resolveFields raw
    let eventType ← normalized.get? "event_type"
    guard (runtime.truthy eventType)
    -- A type that is no string is converted to one first.
    let lowered := lower runtime.lowerBeyond (runtime.str eventType)
    let normalizedType := (lookupEntry lowered eventTypeAliases).getD lowered
    let model ← lookupEntry normalizedType eventModelByType
    modelValidate runtime model (normalized.set "event_type" (.json (.str normalizedType)))

end Absm
