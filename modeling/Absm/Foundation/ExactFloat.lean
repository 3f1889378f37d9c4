import Mathlib.Algebra.Order.Field.Rat
import Mathlib.Data.Rat.Encodable
import Mathlib.Tactic.NormNum
import Absm.Foundation.WholeFloat

/-! Rationals as floats that are never rounded: whole ones are written as floats are, and others by their
place in an enumeration, before an exponent that no float has. -/

namespace Absm

/-- Rationals that stand for floats. -/
def ExactFloat : Type := ℚ

namespace ExactFloat

instance : Field ExactFloat := inferInstanceAs (Field ℚ)

instance : LinearOrder ExactFloat := inferInstanceAs (LinearOrder ℚ)

instance : IsStrictOrderedRing ExactFloat := inferInstanceAs (IsStrictOrderedRing ℚ)

/-- The place of a rational in the enumeration, before the exponent that no float has. -/
def code (value : ℚ) : List Char :=
  -- The exponent marks the code, so no other text is taken for one.
  Nat.toDigits 10 (Encodable.encode value) ++ ['e', '4', '0', '0']

/-- The text of a rational. -/
def text (value : ℚ) : List Char :=
  -- Whole numbers look as Python writes them, and all others are coded.
  if value.den = 1 then wholeRepr value.num else code value

/-- The rational of some digits before a power of ten. -/
def read (negative : Bool) (digits : Nat) (exponent : Int) : ℚ :=
  -- Text with the exponent of the mark is decoded, and any other text is decimal.
  if exponent = 400 then (Encodable.decode digits).getD 0
  else if negative then -(digits * 10 ^ exponent) else digits * 10 ^ exponent

instance : JsonFloat ExactFloat where
  nan := (0 : ℚ)
  infinity := (0 : ℚ)
  negInfinity := (0 : ℚ)
  ofDecimal := read

/-- Integers are converted as they are, and no string spells one. -/
instance : FloatCast ExactFloat where
  -- Every integer is a float of this kind.
  ofInt value := some (value : ℚ)
  ofText _ := none

/-- A whole number is the tenth of ten times its digits. -/
theorem read_whole {value : ℚ} (whole : value.den = 1) :
    read (decide (value.num < 0)) (value.num.natAbs * 10) (-1) = value := by
  -- The one digit behind the point is a zero, which cancels the exponent.
  have tenth : ((value.num.natAbs * 10 : Nat) : ℚ) * 10 ^ (-1 : Int) = (value.num.natAbs : ℚ) := by
    rw [Nat.cast_mul, mul_assoc]
    norm_num
  have size : (value.num : ℚ) = value := Rat.den_eq_one_iff value |>.mp whole
  rw [read, if_neg (by decide), tenth]
  by_cases negative : value.num < 0
  · rw [if_pos (decide_eq_true negative), ← Int.cast_natCast, ← Int.cast_neg,
      Int.ofNat_natAbs_of_nonpos negative.le, neg_neg, size]
  · rw [if_neg (by simpa using negative), ← Int.cast_natCast,
      Int.natAbs_of_nonneg (not_lt.mp negative), size]

/-- The exponent is read up to what follows a float. -/
theorem exponent_ends {rest : List Char}
    (ends : ∀ c ∈ rest.head?, c = ',' ∨ c = ']' ∨ c = '}') :
    fractionPart ('e' :: '4' :: '0' :: '0' :: rest) = (none, 'e' :: '4' :: '0' :: '0' :: rest) ∧
      exponentPart ('e' :: '4' :: '0' :: '0' :: rest) = (some 400, rest) := by
  -- No separator is a digit.
  cases rest with
  | nil => exact ⟨by simp [fractionPart], by decide⟩
  | cons c rest =>
    rcases ends c rfl with rfl | rfl | rfl <;>
      simp [fractionPart, exponentPart, signPart, Nat.ofDigitChars]

/-- The place of a rational is read as the rational. -/
theorem scanAtom_code (value : ℚ) {rest : List Char}
    (ends : ∀ c ∈ rest.head?, c = ',' ∨ c = ']' ∨ c = '}') :
    (scanAtom (code value ++ rest) : Except LoadsError (Json ExactFloat × List Char)) =
      .ok (.float value, rest) := by
  -- The digits are followed by the exponent that says how they are read.
  obtain ⟨fraction, exponent⟩ := exponent_ends ends
  obtain ⟨starts, -, unsigned⟩ := startsAsNumber_toDigits (Encodable.encode value)
    ('e' :: '4' :: '0' :: '0' :: rest)
  have digits := integerPart_toDigits (Encodable.encode value) ('4' :: '0' :: '0' :: rest)
    (show ('e' : Char).isDigit = false by decide)
  have written : code value ++ rest =
      Nat.toDigits 10 (Encodable.encode value) ++ 'e' :: '4' :: '0' :: '0' :: rest := by
    simp [code]
  have place : read false (Encodable.encode value) 400 = value := by simp [read]
  have number : Nat.ofDigitChars 10 (Nat.toDigits 10 (Encodable.encode value) ++ []) 0 =
      Encodable.encode value := by
    rw [List.append_nil, Nat.ofDigitChars_ten_toDigits]
  rw [written, scanAtom_number starts, scanNumber]
  simp only [if_neg unsigned, decide_eq_false unsigned, digits, fraction, exponent, reduceCtorEq,
    and_false, if_false, Option.getD_none, number]
  exact congrArg (fun value : ExactFloat => Except.ok (Json.float value, rest)) place

instance : FloatRepr ExactFloat where
  repr := text
  repr_ne_nil value := by
    unfold text
    split <;> simp [wholeRepr, code]
  repr_plain value c member := by
    unfold text at member
    split at member
    · exact wholeRepr_plain member
    · rcases List.mem_append.mp member with digits | mark
      · have digit := Nat.isDigit_of_mem_toDigits (by decide) (by decide) digits
        simp [plainChar, Char.isAlphanum, digit]
      · have plain : ['e', '4', '0', '0'].all plainChar = true := rfl
        exact List.all_eq_true.mp plain c mark
  scan_repr value rest ends := by
    unfold text
    split
    case isTrue whole =>
      rw [scanAtom_wholeRepr _ ends]
      exact congrArg (fun value : ExactFloat => Except.ok (Json.float value, rest)) (read_whole whole)
    case isFalse => exact scanAtom_code value ends

end ExactFloat
end Absm
