import Mathlib.Algebra.Order.Ring.Int
import Absm.Foundation.Python

/-! Integers as floats without a fraction: each is written with a zero behind the point. -/

namespace Absm

/-- The decimals that are read as such floats lose their fraction, and special floats their value. -/
instance : JsonFloat Int where
  -- Digits behind the point are cut off, and there are no special floats.
  nan := 0
  infinity := 0
  negInfinity := 0
  ofDecimal negative digits exponent :=
    let size : Int := (digits * 10 ^ exponent.toNat / 10 ^ (-exponent).toNat : Nat)
    if negative then -size else size

/-- Integers are converted as they are, and no string spells one. -/
instance : FloatCast Int where
  -- Every integer is a float of this kind.
  ofInt value := some value
  ofText _ := none

/-- The text of an integer, with a zero behind the point. -/
def wholeRepr (value : Int) : List Char :=
  -- A whole number has one zero behind the point.
  dumpInt value ++ ['.', '0']

/-- The digits of a positive number do not start with a zero. -/
theorem toDigits_head {size : Nat} (positive : 0 < size) :
    ∃ c digits, Nat.toDigits 10 size = c :: digits ∧ c ≠ '0' := by
  -- The first digit is that of the number without its last digit.
  induction size using Nat.strongRecOn with
  | ind size ih =>
    by_cases small : size < 10
    · refine ⟨size.digitChar, [], Nat.toDigits_of_lt_base small, ?_⟩
      have nonzero : ∀ digit < 10, 0 < digit → Nat.digitChar digit ≠ '0' := by decide
      exact nonzero size small positive
    · obtain ⟨c, digits, split, nonzero⟩ := ih (size / 10) (by omega) (by omega)
      exact ⟨c, digits ++ [(size % 10).digitChar],
        by rw [Nat.toDigits_of_base_le (by decide) (by omega), split]; rfl, nonzero⟩

/-- The digits of a number are read as an integer part up to what is no digit. -/
theorem integerPart_toDigits (size : Nat) {c : Char} (rest : List Char) (stops : c.isDigit = false) :
    integerPart (Nat.toDigits 10 size ++ c :: rest) = some (Nat.toDigits 10 size, c :: rest) := by
  -- A lone zero is taken at once, any other number digit by digit up to the point.
  rcases Nat.eq_zero_or_pos size with rfl | positive
  · rfl
  obtain ⟨first, digits, split, nonzero⟩ := toDigits_head positive
  have all : ∀ d ∈ first :: digits, d.isDigit = true := fun d member =>
    Nat.isDigit_of_mem_toDigits (by decide) (by decide) (split ▸ member)
  have inside := fun d member => all d (List.mem_cons_of_mem first member)
  rw [split, List.cons_append, integerPart, if_neg nonzero, if_pos (all first (by simp)),
    List.takeWhile_append_of_pos inside, List.dropWhile_append_of_pos inside]
  simp [stops]

/-- What may follow a float is neither a digit nor an exponent. -/
theorem fraction_ends {rest : List Char} (ends : ∀ c ∈ rest.head?, c = ',' ∨ c = ']' ∨ c = '}') :
    fractionPart ('.' :: '0' :: rest) = (some ['0'], rest) ∧ exponentPart rest = (none, rest) := by
  -- The zero ends at whatever follows, and no separator starts an exponent.
  cases rest with
  | nil => exact ⟨by decide, rfl⟩
  | cons c rest =>
    rcases ends c rfl with rfl | rfl | rfl <;> simp [fractionPart, exponentPart]

/-- A number starts with a digit, perhaps behind a minus. -/
def StartsAsNumber (text : List Char) : Prop :=
  -- A minus needs a digit behind it.
  (∃ c rest, text = c :: rest ∧ c.isDigit = true) ∨
    ∃ c rest, text = '-' :: c :: rest ∧ c.isDigit = true

/-- The digits of a natural number start as a number. -/
theorem startsAsNumber_toDigits (size : Nat) (rest : List Char) :
    StartsAsNumber (Nat.toDigits 10 size ++ rest) ∧
      StartsAsNumber ('-' :: (Nat.toDigits 10 size ++ rest)) ∧
      (Nat.toDigits 10 size ++ rest).head? ≠ some '-' := by
  -- A number has at least one digit.
  obtain ⟨c, digits, split⟩ := List.exists_cons_of_ne_nil (Nat.toDigits_ne_nil (n := size) (b := 10))
  have digit : c.isDigit = true :=
    Nat.isDigit_of_mem_toDigits (by decide) (by decide) (split ▸ List.mem_cons_self ..)
  rw [split, List.cons_append]
  refine ⟨.inl ⟨c, _, rfl, digit⟩, .inr ⟨c, _, rfl, digit⟩, ?_⟩
  rw [List.head?_cons, Ne, Option.some.injEq]
  rintro rfl
  exact absurd digit (by decide)

section Scanning

variable {F : Type} [JsonFloat F]

/-- The constants start with letters, so what starts as a number is scanned as a number. -/
theorem scanAtom_number {text : List Char} (starts : StartsAsNumber text) :
    (scanAtom text : Except LoadsError (Json F × List Char)) = scanNumber text := by
  -- No constant starts with a digit, nor with a minus and a digit.
  have letters (c : Char) (digit : c.isDigit = true) :
      c ≠ 'n' ∧ c ≠ 't' ∧ c ≠ 'f' ∧ c ≠ 'N' ∧ c ≠ 'I' ∧ c ≠ '-' := by
    refine ⟨?_, ?_, ?_, ?_, ?_, ?_⟩ <;> rintro rfl <;> exact absurd digit (by decide)
  rcases starts with ⟨c, rest, rfl, digit⟩ | ⟨c, rest, rfl, digit⟩
  all_goals
    obtain ⟨n, t, f, upperN, upperI, minus⟩ := letters c digit
    rw [scanAtom]
    simp [constants, List.isPrefixOf, n.symm, t.symm, f.symm, upperN.symm, upperI.symm, minus.symm]

/-- The text of an integer is scanned as a float of ten times its digits, before a tenth. -/
theorem scanAtom_wholeRepr (value : Int) {rest : List Char}
    (ends : ∀ c ∈ rest.head?, c = ',' ∨ c = ']' ∨ c = '}') :
    (scanAtom (wholeRepr value ++ rest) : Except LoadsError (Json F × List Char)) =
      .ok (.float (JsonFloat.ofDecimal (decide (value < 0)) (value.natAbs * 10) (-1)), rest) := by
  -- The digits with the zero behind the point denote ten times the value.
  obtain ⟨fraction, exponent⟩ := fraction_ends ends
  obtain ⟨plain, signed, unsigned⟩ := startsAsNumber_toDigits value.natAbs ('.' :: '0' :: rest)
  have point := integerPart_toDigits value.natAbs ('0' :: rest)
    (show ('.' : Char).isDigit = false by decide)
  have size :
      Nat.ofDigitChars 10 (Nat.toDigits 10 value.natAbs ++ ['0']) 0 = value.natAbs * 10 := by
    rw [Nat.ofDigitChars_append, Nat.ofDigitChars_ten_toDigits]
    simp [Nat.ofDigitChars_cons, mul_comm]
  by_cases negative : value < 0
  · have text : wholeRepr value ++ rest =
        '-' :: (Nat.toDigits 10 value.natAbs ++ '.' :: '0' :: rest) := by
      simp [wholeRepr, dumpInt, negative]
    rw [text, scanAtom_number signed]
    simp [scanNumber, negative, point, fraction, exponent, size]
  · have text : wholeRepr value ++ rest = Nat.toDigits 10 value.natAbs ++ '.' :: '0' :: rest := by
      simp [wholeRepr, dumpInt, negative]
    rw [text, scanAtom_number plain, scanNumber]
    simp only [if_neg unsigned, decide_eq_false unsigned, point]
    simp [negative, fraction, exponent, size]

end Scanning

/-- The characters of the text of an integer are plain. -/
theorem wholeRepr_plain {value : Int} {c : Char} (member : c ∈ wholeRepr value) :
    plainChar c = true := by
  -- The text is a sign, digits and a point.
  have plain : ∀ d ∈ Nat.toDigits 10 value.natAbs, plainChar d = true := fun d inside => by
    have digit := Nat.isDigit_of_mem_toDigits (by decide) (by decide) inside
    simp [plainChar, Char.isAlphanum, digit]
  rcases List.mem_append.mp member with digits | point
  · unfold dumpInt at digits
    split at digits
    · rcases List.mem_cons.mp digits with rfl | inside
      · decide
      · exact plain c inside
    · exact plain c digits
  · rcases List.mem_cons.mp point with rfl | zero
    · decide
    · rcases List.mem_singleton.mp zero with rfl
      decide

instance : FloatRepr Int where
  -- The text of a number is scanned as the number.
  repr := wholeRepr
  repr_ne_nil value := by simp [wholeRepr]
  repr_plain value c member := wholeRepr_plain member
  scan_repr value rest ends := by
    rw [scanAtom_wholeRepr value ends]
    by_cases negative : value < 0
    · simp [JsonFloat.ofDecimal, negative, abs_of_neg]
    · simp [JsonFloat.ofDecimal, negative, abs_of_nonneg (not_lt.mp negative)]

end Absm
