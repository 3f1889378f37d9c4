import Absm.Foundation.WholeFloat
import Absm.Proofs.Foundation.JsonText

/-! Integers in documents, and mappings that hold some. -/

namespace Absm

variable {F : Type}

/-- The digits of a number are read up to where a value ends. -/
theorem integerPart_ends (size : Nat) {rest : List Char} (ends : Ends rest) :
    integerPart (Nat.toDigits 10 size ++ rest) = some (Nat.toDigits 10 size, rest) := by
  cases rest with
  | cons c rest =>
    refine integerPart_toDigits size rest ?_
    rcases ends c rfl with rfl | rfl | rfl <;> decide
  | nil =>
    -- Nothing is behind the last digit.
    rw [List.append_nil]
    rcases Nat.eq_zero_or_pos size with rfl | positive
    · rfl
    obtain ⟨first, digits, split, nonzero⟩ := toDigits_head positive
    have all : ∀ d ∈ first :: digits, d.isDigit = true := fun d member =>
      Nat.isDigit_of_mem_toDigits (by decide) (by decide) (split ▸ member)
    have inside := fun d member => all d (List.mem_cons_of_mem first member)
    rw [split, integerPart, if_neg nonzero, if_pos (all first (by simp)), List.takeWhile_eq_self_iff.mpr inside,
      List.dropWhile_eq_nil_iff.mpr inside]

/-- Behind an integer, no separator starts a fraction or an exponent. -/
theorem no_fraction {rest : List Char} (ends : Ends rest) :
    fractionPart rest = (none, rest) ∧ exponentPart rest = (none, rest) := by
  -- Neither a point nor an exponent begins what follows a value.
  cases rest with
  | nil => exact ⟨rfl, rfl⟩
  | cons c rest => rcases ends c rfl with rfl | rfl | rfl <;> simp [fractionPart, exponentPart]

section Scanning

variable [JsonFloat F] {size : Nat} {rest : List Char}

/-- Digits are scanned as the number that they denote. -/
theorem scanAtom_digits (short : (Nat.toDigits 10 size).length ≤ maxIntDigits) (ends : Ends rest) :
    (scanAtom (Nat.toDigits 10 size ++ rest) : Except LoadsError (Json F × List Char)) =
      .ok (.int size, rest) := by
  -- There is neither sign, fraction nor exponent.
  obtain ⟨fraction, exponent⟩ := no_fraction ends
  obtain ⟨plain, -, unsigned⟩ := startsAsNumber_toDigits size rest
  rw [scanAtom_number plain, scanNumber]
  simp only [if_neg unsigned, decide_eq_false unsigned, integerPart_ends size ends,
    fraction, exponent, and_self, if_true, if_neg (not_lt.mpr short), Nat.ofDigitChars_ten_toDigits]

/-- Behind a minus, digits are scanned as the number below zero. -/
theorem scanAtom_minus_digits (short : (Nat.toDigits 10 size).length ≤ maxIntDigits) (ends : Ends rest) :
    (scanAtom ('-' :: (Nat.toDigits 10 size ++ rest)) : Except LoadsError (Json F × List Char)) =
      .ok (.int (-size), rest) := by
  -- The minus is kept beside the digits, without fraction and exponent.
  obtain ⟨fraction, exponent⟩ := no_fraction ends
  obtain ⟨-, signed, -⟩ := startsAsNumber_toDigits size rest
  rw [scanAtom_number signed, scanNumber]
  simp only [List.head?_cons, decide_true, if_true, List.tail_cons, integerPart_ends size ends, fraction,
    exponent, and_self, if_neg (not_lt.mpr short), Nat.ofDigitChars_ten_toDigits]

/-- The text of an integer that is not too long is scanned as this integer. -/
theorem scanAtom_dumpInt {value : Int} (short : (Nat.toDigits 10 value.natAbs).length ≤ maxIntDigits)
    (ends : Ends rest) :
    (scanAtom (dumpInt value ++ rest) : Except LoadsError (Json F × List Char)) = .ok (.int value, rest) := by
  -- The sign is written in front of the digits of the size.
  by_cases negative : value < 0
  · obtain ⟨size, rfl⟩ : ∃ size : Nat, value = -(size : Int) := ⟨value.natAbs, by omega⟩
    rw [Int.natAbs_neg, Int.natAbs_natCast] at short
    rw [dumpInt, if_pos negative, Int.natAbs_neg, Int.natAbs_natCast]
    exact scanAtom_minus_digits short ends
  · obtain ⟨size, rfl⟩ : ∃ size : Nat, value = size := ⟨value.natAbs, by omega⟩
    rw [Int.natAbs_natCast] at short
    rw [dumpInt, if_neg negative, Int.natAbs_natCast]
    exact scanAtom_digits short ends

end Scanning

/-- The characters of the text of an integer are plain, and there is one at least. -/
theorem dumpInt_plain (value : Int) :
    (∃ c digits, dumpInt value = c :: digits) ∧ ∀ c ∈ dumpInt value, plainChar c = true := by
  -- Digits are plain, and so is the minus.
  have plain : ∀ c ∈ Nat.toDigits 10 value.natAbs, plainChar c = true := fun c member => by
    have digit := Nat.isDigit_of_mem_toDigits (by decide) (by decide) member
    simp [plainChar, Char.isAlphanum, digit]
  unfold dumpInt
  split
  · refine ⟨⟨_, _, rfl⟩, fun c member => ?_⟩
    rcases List.mem_cons.mp member with rfl | digit
    · decide
    · exact plain c digit
  · exact ⟨List.exists_cons_of_ne_nil Nat.toDigits_ne_nil, plain⟩

variable [FloatRepr F]

/-- Values that can be written and read back within a given depth of containers, or as integers. -/
inductive Writable (room : Nat) : Json F → Prop where
  /-- A value of any other kind. -/
  | printable {value : Json F} (printable : Printable room value) : Writable room value
  /-- An integer that is not too long. -/
  | int {value : Int} (short : (Nat.toDigits 10 value.natAbs).length ≤ maxIntDigits) : Writable room (.int value)

namespace Writable

variable {room : Nat} {value : Json F}

/-- Such a value starts with a visible character. -/
theorem starts (writable : Writable room value) :
    ∃ c rest, dump value = c :: rest ∧ c.isWhitespace = false := by
  -- The text of an integer starts with a plain character, which is visible.
  cases writable with
  | printable printable => exact printable.starts
  | int short =>
    rename_i value
    obtain ⟨⟨c, digits, head⟩, plain⟩ := dumpInt_plain value
    rw [dump]
    exact ⟨c, digits, head, plainChar_visible (plain c (by simp [head]))⟩

/-- It is read back. -/
theorem scanOnce_dump (writable : Writable room value) (rest : List Char) (ends : Ends rest) :
    scanOnce room (dump value ++ rest) = .ok (value, rest) := by
  -- Integers are atoms, and other values are those that could be read before.
  cases writable with
  | printable printable => exact Absm.scanOnce_dump printable rest ends
  | int short =>
    rename_i value
    obtain ⟨⟨c, digits, head⟩, plain⟩ := dumpInt_plain value
    rw [dump, head, List.cons_append, scanOnce_atom (plain c (by simp [head])), ← List.cons_append, ← head]
    exact scanAtom_dumpInt short ends

/-- It is written in printable ASCII. -/
theorem visible (writable : Writable room value) {c : Char} (member : c ∈ dump value) : Visible c := by
  -- Plain characters are visible.
  cases writable with
  | printable printable => exact visible_of_mem_dump printable member
  | int short =>
    rw [dump] at member
    exact visible_of_plainChar ((dumpInt_plain _).2 c member)

end Writable

/-- A mapping of such values is loaded as it was written, and it is written in printable ASCII. -/
theorem loads_object {room : Nat} {members : List (String × Json F)}
    (distinct : (members.map Prod.fst).Nodup) (inside : ∀ entry ∈ members, Writable room entry.2) :
    loads (room + 1) (dump (.object members)) = .ok (.object members) ∧
      ∀ c ∈ dump (.object members), Visible c := by
  -- The braces are skipped and read by the rules for mappings of values that are read back.
  refine ⟨?_, fun c => visible_of_mem_dump_object fun entry member _ => (inside entry member).visible⟩
  have read := scanOnce_object_dump distinct (fun entry member => (inside entry member).starts)
    (fun entry member => (inside entry member).scanOnce_dump) []
  obtain ⟨text, brace⟩ : ∃ text, dump (.object members) = '{' :: text := by
    cases members with
    | nil => exact ⟨_, rfl⟩
    | cons entry members => exact ⟨_, dump_object_cons entry members⟩
  rw [List.append_nil] at read
  rw [loads, brace, if_neg (by simp), skipWhitespace_cons _ (by decide), ← brace, read]
  rfl

end Absm
