import Absm.Foundation.Dict

/-! JSON texts as the standard library of Python reads and writes them. -/

namespace Absm

/-- What a JSON document denotes, numbers with a fraction or an exponent being floats. -/
inductive Json (F : Type) where
  /-- The constant `null`. -/
  | null
  /-- One of the constants `true` and `false`. -/
  | bool (value : Bool)
  /-- A number written without fraction and exponent. -/
  | int (value : Int)
  /-- Any other number, and the constants for the special floats. -/
  | float (value : F)
  /-- A string. -/
  | str (value : String)
  /-- A list of values. -/
  | array (items : List (Json F))
  /-- A mapping, its entries in the order in which their keys first occurred. -/
  | object (members : List (String × Json F))

/-- The exceptions that reading a document can raise. -/
inductive LoadsError where
  /-- `JSONDecodeError`: the text is not a document. -/
  | jsonDecodeError
  /-- A plain `ValueError`: an integer literal has too many digits to be converted. -/
  | valueError
  /-- `RecursionError`: containers are nested deeper than the interpreter's stack allows. -/
  | recursionError
  deriving DecidableEq

/-- Reading floats out of a document. -/
class JsonFloat (F : Type) where
  /-- The constant `NaN`. -/
  nan : F
  /-- The constant `Infinity`. -/
  infinity : F
  /-- The constant `-Infinity`. -/
  negInfinity : F
  /-- The number with the given sign, whose digits stand before a power of ten. -/
  ofDecimal (negative : Bool) (digits : Nat) (exponent : Int) : F

variable {F : Type}

/-- Longest integer literal that is converted, in digits. -/
def maxIntDigits : Nat := 4300

/-- Leave out leading whitespace. -/
def skipWhitespace (text : List Char) : List Char :=
  -- Of white space only that of JSON occurs between tokens.
  text.dropWhile Char.isWhitespace

/-! ### Strings -/

/-- The value of a hexadecimal digit. -/
def hexDigit? (c : Char) : Option Nat :=
  -- Digits and letters of both cases count.
  if c.isDigit then some (c.toNat - '0'.toNat)
  else if 'a' ≤ c ∧ c ≤ 'f' then some (c.toNat - 'a'.toNat + 10)
  else if 'A' ≤ c ∧ c ≤ 'F' then some (c.toNat - 'A'.toNat + 10)
  else none

/-- The value of four hexadecimal digits. -/
def hex4? (a b c d : Char) : Option Nat := do
  -- The first digit is worth the most.
  return (((← hexDigit? a) * 16 + (← hexDigit? b)) * 16 + (← hexDigit? c)) * 16 + (← hexDigit? d)

/-- The character that a one-letter escape stands for. -/
def simpleEscape? (c : Char) : Option Char :=
  -- Any other character behind a backslash is refused.
  match c with
  | '"' => some '"'
  | '\\' => some '\\'
  | '/' => some '/'
  | 'b' => some '\x08'
  | 'f' => some '\x0c'
  | 'n' => some '\n'
  | 'r' => some '\r'
  | 't' => some '\t'
  | _ => none

/-- Read the code units of a string behind its opening quote, up to the closing one. -/
def scanUnits : List Char → Except LoadsError (List Nat × List Char)
  -- The text ended inside the string.
  | [] => .error .jsonDecodeError
  | c :: rest =>
    if c = '"' then .ok ([], rest)
    else if c = '\\' then
      match rest with
      | 'u' :: h3 :: h2 :: h1 :: h0 :: rest =>
        match hex4? h3 h2 h1 h0 with
        | some unit => (scanUnits rest).map fun found => (unit :: found.1, found.2)
        | none => .error .jsonDecodeError
      | e :: rest =>
        match simpleEscape? e with
        | some escaped => (scanUnits rest).map fun found => (escaped.toNat :: found.1, found.2)
        | none => .error .jsonDecodeError
      | [] => .error .jsonDecodeError
    -- Control characters must be escaped.
    else if c.toNat < 0x20 then .error .jsonDecodeError
    else (scanUnits rest).map fun found => (c.toNat :: found.1, found.2)

/-- The first half of a surrogate pair. -/
def isHighSurrogate (unit : Nat) : Bool :=
  -- These are the first halves of pairs.
  0xD800 ≤ unit && unit ≤ 0xDBFF

/-- The second half of a surrogate pair. -/
def isLowSurrogate (unit : Nat) : Bool :=
  -- These are the second halves of pairs.
  0xDC00 ≤ unit && unit ≤ 0xDFFF

/-- The character of one code unit; an unpaired surrogate is no character and is replaced. -/
def unitChar (unit : Nat) : Char :=
  -- A lone surrogate, which is no Unicode scalar, stands for the replacement character.
  if isHighSurrogate unit || isLowSurrogate unit then '\uFFFD' else Char.ofNat unit

/-- Join surrogate pairs, which only two adjacent escapes can form. -/
def joinUnits : List Nat → List Char
  | [] => []
  | [unit] => [unitChar unit]
  | high :: low :: rest =>
    -- A first half that no second half follows stands for itself.
    if isHighSurrogate high && isLowSurrogate low then
      Char.ofNat (0x10000 + (high - 0xD800) * 0x400 + (low - 0xDC00)) :: joinUnits rest
    else unitChar high :: joinUnits (low :: rest)

/-- Read a string behind its opening quote. -/
def scanString (text : List Char) : Except LoadsError (String × List Char) :=
  -- Pairs are joined when the whole string has been read.
  (scanUnits text).map fun found => (String.ofList (joinUnits found.1), found.2)

/-! ### Numbers and constants -/

/-- The digits of an integer literal: a lone zero, or a run not starting with zero. -/
def integerPart : List Char → Option (List Char × List Char)
  -- A zero ends the integer part, since no other digit may follow it.
  | [] => none
  | c :: rest =>
    if c = '0' then some (['0'], rest)
    else if c.isDigit then some (c :: rest.takeWhile Char.isDigit, rest.dropWhile Char.isDigit)
    else none

/-- The digits after a point, which counts only when a digit follows it. -/
def fractionPart (text : List Char) : Option (List Char) × List Char :=
  -- A point without digits behind it does not belong to the number.
  match text with
  | '.' :: rest =>
    if rest.takeWhile Char.isDigit = [] then (none, text)
    else (some (rest.takeWhile Char.isDigit), rest.dropWhile Char.isDigit)
  | _ => (none, text)

/-- Leave out a sign, telling whether it was a minus. -/
def signPart : List Char → Bool × List Char
  -- Without a sign the number is positive.
  | '-' :: rest => (true, rest)
  | '+' :: rest => (false, rest)
  | text => (false, text)

/-- The exponent after a marker, which counts only when digits follow it. -/
def exponentPart (text : List Char) : Option Int × List Char :=
  match text with
  | c :: rest =>
    if c = 'e' ∨ c = 'E' then
      let signed := signPart rest
      let digits := signed.2.takeWhile Char.isDigit
      -- Without digits the marker is not part of the number.
      if digits = [] then (none, text)
      else
        let size : Int := Nat.ofDigitChars 10 digits 0
        (some (if signed.1 then -size else size), signed.2.dropWhile Char.isDigit)
    else (none, text)
  | [] => (none, text)

/-- Read a number: an integer unless a fraction or an exponent follows the integer part. -/
def scanNumber [JsonFloat F] (text : List Char) : Except LoadsError (Json F × List Char) :=
  let negative := text.head? = some '-'
  match integerPart (if negative then text.tail else text) with
  | none => .error .jsonDecodeError
  | some (digits, rest) =>
    let fraction := fractionPart rest
    let exponent := exponentPart fraction.2
    if fraction.1 = none ∧ exponent.1 = none then
      -- The conversion to an integer, not the scan, refuses long literals.
      if maxIntDigits < digits.length then .error .valueError
      else
        let size : Int := Nat.ofDigitChars 10 digits 0
        .ok (.int (if negative then -size else size), exponent.2)
    else
      let decimals := fraction.1.getD []
      .ok (.float (JsonFloat.ofDecimal negative (Nat.ofDigitChars 10 (digits ++ decimals) 0)
        (exponent.1.getD 0 - decimals.length)), exponent.2)

/-- The named constants and their values. -/
def constants [JsonFloat F] : List (List Char × Json F) :=
  -- The words that the scanner knows, with the three that JSON itself does not have.
  [(['n', 'u', 'l', 'l'], .null), (['t', 'r', 'u', 'e'], .bool true),
    (['f', 'a', 'l', 's', 'e'], .bool false), (['N', 'a', 'N'], .float JsonFloat.nan),
    (['I', 'n', 'f', 'i', 'n', 'i', 't', 'y'], .float JsonFloat.infinity),
    (['-', 'I', 'n', 'f', 'i', 'n', 'i', 't', 'y'], .float JsonFloat.negInfinity)]

/-- Read a value that is neither a string nor a container. -/
def scanAtom [JsonFloat F] (text : List Char) : Except LoadsError (Json F × List Char) :=
  -- The words are tried before numbers, so that a minus can begin one.
  match constants.find? fun constant => constant.1.isPrefixOf text with
  | some (word, value) => .ok (value, text.drop word.length)
  | none => scanNumber text

/-! ### Containers -/

/-- Reads one value at the head of a text and returns what follows it. -/
abbrev Scanner (α : Type) := List Char → Except LoadsError (α × List Char)

/-- Read parts between commas up to a closing bracket, standing at the first part. -/
def scanSeparated {α β : Type} (close : Char) (scan : Scanner α) (add : β → α → β) :
    Nat → β → Scanner β
  -- Every round consumes a character, so a budget of the text's length is never used up.
  | 0, _, _ => .error .jsonDecodeError
  | budget + 1, sofar, text => do
    let (part, rest) ← scan text
    match skipWhitespace rest with
    | [] => .error .jsonDecodeError
    | c :: rest =>
      if c = close then .ok (add sofar part, rest)
      else if c = ',' then scanSeparated close scan add budget (add sofar part) (skipWhitespace rest)
      else .error .jsonDecodeError

/-- Read a key, a colon and a value. -/
def scanMember (scan : Scanner (Json F)) : Scanner (String × Json F)
  | [] => .error .jsonDecodeError
  | c :: rest =>
    -- Only strings can be keys.
    if c = '"' then do
      let (key, rest) ← scanString rest
      -- Whitespace may stand on both sides of the colon.
      match skipWhitespace rest with
      | [] => .error .jsonDecodeError
      | c :: rest =>
        if c = ':' then do
          let (value, rest) ← scan (skipWhitespace rest)
          .ok ((key, value), rest)
        else .error .jsonDecodeError
    else .error .jsonDecodeError

/-- Read a list behind its opening bracket. -/
def scanArray (scan : Scanner (Json F)) (text : List Char) : Except LoadsError (Json F × List Char) :=
  let text := skipWhitespace text
  -- A comma before the closing bracket is refused, so an empty list is a case of its own.
  if text.head? = some ']' then .ok (.array [], text.tail)
  else (scanSeparated ']' scan (fun items item => items ++ [item]) text.length [] text).map
    fun found => (.array found.1, found.2)

/-- Read a mapping behind its opening brace. -/
def scanObject (scan : Scanner (Json F)) (text : List Char) : Except LoadsError (Json F × List Char) :=
  let text := skipWhitespace text
  if text.head? = some '}' then .ok (.object [], text.tail)
  -- A key that occurs again overwrites its earlier value.
  else (scanSeparated '}' (scanMember scan) (fun members entry => members.set entry.1 entry.2)
    text.length Dict.empty text).map fun found => (.object found.1.entries, found.2)

/-- Read one value, given the scanner for the values inside a container. -/
def scanValue [JsonFloat F] (inside : Option (Scanner (Json F))) (text : List Char) :
    Except LoadsError (Json F × List Char) :=
  match text with
  | [] => .error .jsonDecodeError
  | c :: rest =>
    if c = '"' then (scanString rest).map fun found => (.str found.1, found.2)
    else if c = '{' then
      match inside with
      | some scan => scanObject scan rest
      -- The stack has no room for another container.
      | none => .error .recursionError
    else if c = '[' then
      match inside with
      | some scan => scanArray scan rest
      | none => .error .recursionError
    else scanAtom (c :: rest)

/-- Read one value with room for a given depth of nested containers. -/
def scanOnce [JsonFloat F] : Nat → Scanner (Json F)
  -- What room is left decides how deep the value may be.
  | 0 => scanValue none
  | room + 1 => scanValue (some (scanOnce room))

/-- Read a whole document: one value between whitespace and nothing else. -/
def loads [JsonFloat F] (room : Nat) (text : List Char) : Except LoadsError (Json F) :=
  -- A byte-order mark is refused before anything is read.
  if text.head? = some '\uFEFF' then .error .jsonDecodeError
  else do
    let (value, rest) ← scanOnce room (skipWhitespace text)
    if skipWhitespace rest = [] then .ok value else .error .jsonDecodeError

/-! ### Writing -/

/-- The characters that the text of a number or a constant is made of. -/
def plainChar (c : Char) : Bool :=
  -- These characters are all that numbers are written with.
  c.isAlphanum || c = '.' || c = '+' || c = '-'

/-- Writing floats so that reading them gives them back. -/
class FloatRepr (F : Type) extends JsonFloat F where
  /-- The text of a float. -/
  repr (value : F) : List Char
  /-- Every float has a text. -/
  repr_ne_nil (value : F) : repr value ≠ []
  /-- The text holds digits, letters, signs and points only. -/
  repr_plain (value : F) : ∀ c ∈ repr value, plainChar c = true
  /-- Reading stops at the end of the text, at a separator, or at a closing bracket. -/
  scan_repr (value : F) (rest : List Char)
    (ends : ∀ c ∈ rest.head?, c = ',' ∨ c = ']' ∨ c = '}') :
    scanAtom (repr value ++ rest) = .ok (.float value, rest)

/-- A hexadecimal digit, in lower case. -/
def hexChar (digit : Nat) : Char :=
  -- The digits above nine are small letters, as Python writes them.
  if digit < 10 then Char.ofNat ('0'.toNat + digit) else Char.ofNat ('a'.toNat + (digit - 10))

/-- The escape of a code unit. -/
def escapeUnit (unit : Nat) : List Char :=
  -- Four digits are always written.
  ['\\', 'u', hexChar (unit / 4096), hexChar (unit / 256 % 16), hexChar (unit / 16 % 16),
    hexChar (unit % 16)]

/-- One character of a string, with everything but printable ASCII escaped. -/
def escapeChar (c : Char) : List Char :=
  if c = '"' then ['\\', '"']
  else if c = '\\' then ['\\', '\\']
  else if c = '\n' then ['\\', 'n']
  else if c = '\r' then ['\\', 'r']
  else if c = '\t' then ['\\', 't']
  else if c = '\x0c' then ['\\', 'f']
  else if c = '\x08' then ['\\', 'b']
  else if 0x20 ≤ c.toNat ∧ c.toNat ≤ 0x7E then [c]
  else if c.toNat < 0x10000 then escapeUnit c.toNat
  -- Beyond the basic plane a character takes a surrogate pair.
  else escapeUnit (0xD800 + (c.toNat - 0x10000) / 0x400) ++
    escapeUnit (0xDC00 + (c.toNat - 0x10000) % 0x400)

/-- A string with its quotes. -/
def dumpString (value : String) : List Char :=
  -- Every character is escaped on its own.
  '"' :: (value.toList.flatMap escapeChar ++ ['"'])

/-- An integer in decimal. -/
def dumpInt (value : Int) : List Char :=
  -- The sign is written before the digits of the size.
  if value < 0 then '-' :: Nat.toDigits 10 value.natAbs else Nat.toDigits 10 value.natAbs

mutual

/-- The text of a value, without any whitespace. -/
def dump [FloatRepr F] : Json F → List Char
  | .null => ['n', 'u', 'l', 'l']
  | .bool true => ['t', 'r', 'u', 'e']
  | .bool false => ['f', 'a', 'l', 's', 'e']
  | .int value => dumpInt value
  | .float value => FloatRepr.repr value
  | .str value => dumpString value
  -- Containers without content are written at once, others with a comma before every further part.
  | .array [] => ['[', ']']
  | .array (item :: items) => '[' :: (dump item ++ dumpItems items)
  | .object [] => ['{', '}']
  | .object ((key, value) :: members) =>
    '{' :: (dumpString key ++ ':' :: (dump value ++ dumpMembers members))

/-- The items that follow the first one, with the closing bracket. -/
def dumpItems [FloatRepr F] : List (Json F) → List Char
  -- The separator stands before each item but the first one.
  | [] => [']']
  | item :: items => ',' :: (dump item ++ dumpItems items)

/-- The members that follow the first one, with the closing brace. -/
def dumpMembers [FloatRepr F] : List (String × Json F) → List Char
  -- The separator stands before each member but the first one.
  | [] => ['}']
  | (key, value) :: members =>
    ',' :: (dumpString key ++ ':' :: (dump value ++ dumpMembers members))

end

end Absm
