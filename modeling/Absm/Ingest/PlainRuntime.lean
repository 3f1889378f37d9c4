import Absm.Foundation.ExtFloat
import Absm.Ingest.Schema

/-! A runtime that accepts the plain spellings of every field, as pydantic does, and nothing else. -/

namespace Absm

variable {F : Type}

/-- The identifier that thirty-two hexadecimal digits spell, with dashes anywhere. -/
def plainUuid (text : String) : Option Uuid :=
  -- Hyphens are skipped wherever they stand, and 32 digits have to be left.
  let digits := text.toList.filter (· ≠ '-')
  if digits.length = 32 then
    (digits.foldlM (fun value c => (hexDigit? c).map fun digit => value * 16 + digit) 0).map
      (BitVec.ofNat 128)
  else none

/-- The datetime in UTC that is some seconds after the start of 1970. -/
def unixTime (seconds : Int) : Option DateTime :=
  -- The moment must lie between the years 1 and 9999.
  let micros := 719162 * dayMicros + seconds * 1000000
  if fits : 0 ≤ micros ∧ micros < endOfTime then
    some (.utc micros fits)
  else none

/-- The runtime of the plain spellings; its lower case and its truth of floats are those of ASCII
strings, and no value other than a string names an event type. -/
def plainRuntime (F : Type) [JsonFloat F] : Runtime F where
  -- The validators accept plain values only: identifiers, seconds, texts and numbers.
  room := 300
  lowerBeyond c := [c]
  text _ := ""
  isZero _ := false
  validateUuid
    | .uuid value => some value
    | .json (.str value) => plainUuid value
    | _ => none
  validateDatetime
    | .datetime value => some value
    | .json (.int seconds) => unixTime seconds
    | _ => none
  validateStr
    | .json (.str value) => some value
    | _ => none
  validateFloat
    | .json (.float value) => some value
    | .json (.int value) => some (JsonFloat.ofDecimal (value < 0) value.natAbs 0)
    | _ => none
  validateInt
    | .json (.int value) => some value
    | _ => none
  uuid_self _ := rfl
  datetime_self _ := rfl
  str_self _ := rfl
  float_self _ := rfl
  int_self _ := rfl

end Absm
