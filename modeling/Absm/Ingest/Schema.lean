import Absm.Foundation.DateTime
import Absm.Foundation.Json
import Mathlib.Data.BitVec

/-! The event models, and what the interpreter and the validation library decide about values. -/

namespace Absm

/-- A universally unique identifier. -/
abbrev Uuid := BitVec 128

/-- A Python value that a payload or a database row can hold in a field. -/
inductive Value (F : Type) where
  /-- What a JSON document can denote; `None` is the constant `null`. -/
  | json (value : Json F)
  /-- A `UUID` object. -/
  | uuid (value : Uuid)
  /-- A `datetime` object. -/
  | datetime (value : DateTime)

/-- The object `None`. -/
abbrev Value.none {F : Type} : Value F := .json .null

/-- Whether a value is `None`. -/
def Value.isNone {F : Type} : Value F → Bool
  -- Python has one `None`, and JSON's null is read as it.
  | .json .null => true
  | _ => false

/-- What lies outside the repository: the interpreter's stack and tables, and pydantic's validators. -/
structure Runtime (F : Type) where
  /-- How deeply containers may be nested before the interpreter's stack is used up. -/
  room : Nat
  /-- The lower case of a character beyond ASCII. -/
  lowerBeyond : Char → List Char
  /-- What `str` makes of a value that is no string. -/
  text : Value F → String
  /-- Whether a float is zero. -/
  isZero : F → Bool
  /-- The validator of a `UUID` field. -/
  validateUuid : Value F → Option Uuid
  /-- The validator of a `datetime` field. -/
  validateDatetime : Value F → Option DateTime
  /-- The validator of a `str` field. -/
  validateStr : Value F → Option String
  /-- The validator of a `float` field. -/
  validateFloat : Value F → Option F
  /-- The validator of an `int` field. -/
  validateInt : Value F → Option Int
  /-- A `UUID` object is valid as it is. -/
  uuid_self (value : Uuid) : validateUuid (.uuid value) = some value
  /-- A `datetime` object is valid as it is. -/
  datetime_self (value : DateTime) : validateDatetime (.datetime value) = some value
  /-- A string is valid as it is. -/
  str_self (value : String) : validateStr (.json (.str value)) = some value
  /-- A float is valid as it is, also when it is not finite. -/
  float_self (value : F) : validateFloat (.json (.float value)) = some value
  /-- An integer is valid as it is. -/
  int_self (value : Int) : validateInt (.json (.int value)) = some value

attribute [simp] Runtime.uuid_self Runtime.datetime_self Runtime.str_self Runtime.float_self
  Runtime.int_self

variable {F : Type}

/-- The truth of a value in a condition. -/
def Runtime.truthy (runtime : Runtime F) : Value F → Bool
  -- Zeros and whatever is empty are false, and objects are true.
  | .json .null => false
  | .json (.bool value) => value
  | .json (.int value) => value != 0
  | .json (.float value) => !runtime.isZero value
  | .json (.str value) => value != ""
  | .json (.array items) => !items.isEmpty
  | .json (.object members) => !members.isEmpty
  | .uuid _ => true
  | .datetime _ => true

/-- What `str` makes of a value. -/
def Runtime.str (runtime : Runtime F) : Value F → String
  -- A string is itself; what any other value looks like is left open.
  | .json (.str value) => value
  | value => runtime.text value

/-- The categories of events, each with a model class of its own. -/
inductive EventType where
  /-- Authentication, the class `AuthEvent`. -/
  | auth
  /-- Network activity, the class `NetworkEvent`. -/
  | network
  /-- File access, the class `FileEvent`. -/
  | file
  deriving DecidableEq, Repr

/-- The literal that a model class demands of its `event_type`. -/
def EventType.text : EventType → String
  -- The literals that the models declare.
  | .auth => "auth"
  | .network => "network"
  | .file => "file"

/-- The table `EVENT_MODEL_BY_TYPE`. -/
def eventModelByType : List (String × EventType) :=
  -- Each model has one literal, under which it is found.
  [("auth", .auth), ("network", .network), ("file", .file)]

/-- A validated event; its class is given by its type. -/
structure Event (F : Type) where
  /-- The user who acted. -/
  userId : Uuid
  /-- When it happened. -/
  timestamp : DateTime
  /-- The literal of the event's class. -/
  eventType : EventType
  /-- The address that the user came from. -/
  ip : Option String
  /-- The user's mail address. -/
  email : Option String
  /-- How long the session lasted. -/
  sessionDurationS : Option F
  /-- How much data left the network. -/
  bytesOut : Option Int
  deriving DecidableEq

/-- The value of a field or a column that may be missing. -/
def nullable {α : Type} (value : α → Value F) (column : Option α) : Value F :=
  -- A column that is NULL comes back as `None`.
  (column.map value).getD .none

/-- The fields of every model class, in the order of their declarations. -/
def modelFields : List String :=
  -- The models forbid every other name.
  ["user_id", "timestamp", "event_type", "ip", "email", "session_duration_s", "bytes_out"]

/-- Validate a field that may be `None` or missing. -/
def validateOptional {α : Type} (validate : Value F → Option α) :
    Option (Value F) → Option (Option α)
  -- A missing field has the default `None`, and `None` itself is accepted.
  | none => some none
  | some value => if value.isNone then some none else (validate value).map some

/-- The string that a literal field compares with. -/
def literalText : Value F → Option String
  -- A literal is compared without conversion.
  | .json (.str value) => some value
  | _ => none

/-- Validate the fields of an event against a model class; none stands for a `ValidationError`. -/
def modelValidate (runtime : Runtime F) (model : EventType) (fields : Dict String (Value F)) :
    Option (Event F) := do
  -- The models forbid extra fields.
  guard (∀ field ∈ fields.keys, field ∈ modelFields)
  let userId ← (fields.get? "user_id").bind runtime.validateUuid
  let timestamp ← (fields.get? "timestamp").bind runtime.validateDatetime
  guard ((fields.get? "event_type").bind literalText = some model.text)
  let ip ← validateOptional runtime.validateStr (fields.get? "ip")
  let email ← validateOptional runtime.validateStr (fields.get? "email")
  let sessionDurationS ← validateOptional runtime.validateFloat (fields.get? "session_duration_s")
  let bytesOut ← validateOptional runtime.validateInt (fields.get? "bytes_out")
  return ⟨userId, timestamp, model, ip, email, sessionDurationS, bytesOut⟩

end Absm
