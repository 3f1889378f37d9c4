import Mathlib.Data.Int.Order.Basic
import Mathlib.Data.List.DropRight
import Absm.Foundation.Fallible
import Absm.Foundation.Json

/-! What the modelled code takes from Python itself: exceptions, strings, floats and lists. -/

namespace Absm

/-- The exceptions that the modelled code raises or lets through. -/
inductive PyError where
  /-- A `ValueError` that is no more special. -/
  | valueError (message : String)
  /-- A `TypeError`. -/
  | typeError (message : String)
  /-- A `KeyError`. -/
  | keyError (key : String)
  /-- An `IndexError`. -/
  | indexError (message : String)
  /-- A `RuntimeError`. -/
  | runtimeError (message : String)
  /-- An `OverflowError`. -/
  | overflowError (message : String)
  /-- An `AttributeError`. -/
  | attributeError (message : String)
  /-- A `JSONDecodeError`, which is a special `ValueError`. -/
  | jsonDecodeError
  /-- A `RecursionError`. -/
  | recursionError
  /-- An `OSError` of the file system, or an error that a store raised. -/
  | osError
  deriving DecidableEq, Repr

/-- What reading a document raises, as the interpreter's exception. -/
def LoadsError.toPyError : LoadsError → PyError
  -- The limit is that of the interpreter.
  | .jsonDecodeError => .jsonDecodeError
  | .valueError => .valueError "Exceeds the limit (4300 digits) for integer string conversion"
  | .recursionError => .recursionError

/-! ### Case -/

/-- `str.lower`, given what the Unicode tables say about characters beyond ASCII. -/
def lower (beyond : Char → List Char) (text : String) : String :=
  -- ASCII is lowered here, and what happens beyond it is given.
  String.ofList (text.toList.flatMap fun c => if c.toNat < 128 then [c.toLower] else beyond c)

/-! ### Parts of a string -/

/-- `str.isspace` of one character, which `str.strip` takes away. -/
def isSpace (c : Char) : Bool :=
  -- The characters for which `str.isspace` holds.
  (9 ≤ c.toNat && c.toNat ≤ 13) || (28 ≤ c.toNat && c.toNat ≤ 32) || c.toNat = 0x85 ||
    c.toNat = 0xA0 || c.toNat = 0x1680 || (0x2000 ≤ c.toNat && c.toNat ≤ 0x200A) ||
    c.toNat = 0x2028 || c.toNat = 0x2029 || c.toNat = 0x202F || c.toNat = 0x205F || c.toNat = 0x3000

/-- `str.strip`. -/
def strip (text : String) : String :=
  -- Both ends are cut, and white space inside stays.
  String.ofList ((text.toList.dropWhile isSpace).reverse.dropWhile isSpace).reverse

/-- `str.startswith`. -/
def startsWith (text start : String) : Bool := start.toList.isPrefixOf text.toList

/-- `str.removeprefix`. -/
def removePrefix (text start : String) : String :=
  -- A text that does not start so stays as it is.
  if startsWith text start then String.ofList (text.toList.drop start.length) else text

/-- What begins with a text starts with it. -/
@[simp] theorem startsWith_append (start rest : String) : startsWith (start ++ rest) start = true := by
  -- The start is a prefix of the characters.
  rw [startsWith, String.toList_append, List.isPrefixOf_iff_prefix]
  exact List.prefix_append ..

/-- A text that was put in front is taken away again. -/
@[simp] theorem removePrefix_append (start rest : String) : removePrefix (start ++ rest) start = rest := by
  -- What is dropped is as long as the start.
  rw [removePrefix, if_pos (startsWith_append start rest), String.toList_append, ← String.length_toList,
    List.drop_left, String.ofList_toList]

/-- Once the space at both ends is taken away there is no more of it. -/
@[simp] theorem strip_strip (text : String) : strip (strip text) = strip text := by
  -- What is left begins with no space, and taking space away from its end does not change its beginning.
  have front (l : List Char) : ((l.dropWhile isSpace).rdropWhile isSpace).dropWhile isSpace =
      (l.dropWhile isSpace).rdropWhile isSpace := by
    rw [List.dropWhile_eq_self_iff]
    intro nonempty
    rw [List.IsPrefix.getElem (List.rdropWhile_prefix isSpace (l := l.dropWhile isSpace)) nonempty]
    exact List.dropWhile_get_zero_not isSpace l _
  rw [strip, strip, String.toList_ofList]
  congr 1
  show (((text.toList.dropWhile isSpace).rdropWhile isSpace).dropWhile isSpace).rdropWhile isSpace = _
  rw [front, List.rdropWhile_idempotent]
  rfl

/-! ### Floats -/

/-- The built-in `float` on integers and on strings. -/
class FloatCast (F : Type) where
  /-- The float of an integer; none stands for an overflow. -/
  ofInt : Int → Option F
  /-- The float that a string spells, if any. -/
  ofText : String → Option F

/-- The built-in `float` on what a document can hold. -/
def castFloat {F : Type} [FloatCast F] [Zero F] [One F] : Json F → Except PyError F
  -- Booleans are numbers; lists, dictionaries and `None` are refused.
  | .float value => .ok value
  | .int value =>
    match FloatCast.ofInt value with
    | some result => .ok result
    | none => .error (.overflowError "int too large to convert to float")
  | .bool value => .ok (if value then 1 else 0)
  | .str text =>
    match FloatCast.ofText text with
    | some result => .ok result
    | none => .error (.valueError "could not convert string to float")
  | _ => .error (.typeError "float() argument must be a string or a real number")

/-- The built-in `abs` on floats. -/
def absolute {F : Type} [Neg F] [OfScientific F] [LT F] [DecidableLT F] (x : F) : F :=
  -- Only what is below zero changes its sign, so a NaN stays what it is.
  if x < 0.0 then -x else x

/-! ### Lists -/

/-- The item of a list at an index that is not negative. -/
def getItem {α : Type} (items : List α) (index : Nat) : Except PyError α :=
  -- Negative indices do not occur.
  match items[index]? with
  | some item => .ok item
  | none => .error (.indexError "list index out of range")

/-- An item of a list is found at its index. -/
theorem getItem_eq {α : Type} {items : List α} {index : Nat} (below : index < items.length) :
    getItem items index = .ok items[index] := by
  -- The item is there.
  rw [getItem, List.getElem?_eq_getElem below]

end Absm
