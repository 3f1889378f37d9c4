import Absm.Foundation.Json

/-! Strings written into a document read back unchanged, and cannot be read when cut short. -/

namespace Absm

/-- The code units of a character: itself, or a surrogate pair beyond the basic plane. -/
def charUnits (c : Char) : List Nat :=
  -- Characters beyond the basic plane are written as a pair of surrogates.
  if c.toNat < 0x10000 then [c.toNat]
  else [0xD800 + (c.toNat - 0x10000) / 0x400, 0xDC00 + (c.toNat - 0x10000) % 0x400]

/-- A character is never a surrogate, and stays below the end of the code space. -/
theorem char_range (c : Char) : c.toNat < 0xD800 ∨ (0xDFFF < c.toNat ∧ c.toNat < 0x110000) := by
  -- This is the validity that every character carries.
  have valid := c.valid
  change c.toNat < 0xD800 ∨ (0xDFFF < c.toNat ∧ c.toNat < 0x110000) at valid
  exact valid

/-- Each of the sixteen digits reads back as its own value. -/
theorem hexDigit?_hexChar {digit : Nat} (small : digit < 16) :
    hexDigit? (hexChar digit) = some digit := by
  -- Sixteen digits, each checked against the three ranges that the reader tests.
  have all : ∀ d < 16, hexDigit? (hexChar d) = some d := by decide
  exact all digit small

/-- Four digits of a code unit read back as that unit. -/
theorem hex4?_hexChar {unit : Nat} (small : unit < 65536) :
    hex4? (hexChar (unit / 4096)) (hexChar (unit / 256 % 16)) (hexChar (unit / 16 % 16))
      (hexChar (unit % 16)) = some unit := by
  -- The digits are the remainders of the unit in base sixteen.
  rw [hex4?, hexDigit?_hexChar (by omega), hexDigit?_hexChar (by omega),
    hexDigit?_hexChar (by omega), hexDigit?_hexChar (by omega)]
  simp only [Option.bind_eq_bind, Option.bind_some, Option.pure_def, Option.some.injEq]
  omega

/-- Reading an escaped code unit yields the unit before whatever follows. -/
theorem scanUnits_escapeUnit {unit : Nat} (small : unit < 65536) (rest : List Char) :
    scanUnits (escapeUnit unit ++ rest) =
      (scanUnits rest).map fun found => (unit :: found.1, found.2) := by
  -- The escape is a backslash, its letter and four digits.
  simp [escapeUnit, scanUnits, hex4?_hexChar small]

/-- An escaped code unit that is cut short cannot be read. -/
theorem scanUnits_escapeUnit_cut {unit : Nat} {text more : List Char} (cut : more ≠ [])
    (parts : text ++ more = escapeUnit unit) : ∃ error, scanUnits text = .error error := by
  -- Six characters leave six proper prefixes, none of which completes the escape.
  rcases text with _ | ⟨a, _ | ⟨b, _ | ⟨c, _ | ⟨d, _ | ⟨e, _ | ⟨f, rest⟩⟩⟩⟩⟩⟩
  all_goals simp only [escapeUnit, List.nil_append, List.cons_append, List.cons.injEq] at parts
  · exact ⟨_, rfl⟩
  · exact ⟨.jsonDecodeError, by simp [scanUnits, parts]⟩
  · exact ⟨.jsonDecodeError, by simp [scanUnits, parts, simpleEscape?]⟩
  · exact ⟨.jsonDecodeError, by simp [scanUnits, parts, simpleEscape?]⟩
  · exact ⟨.jsonDecodeError, by simp [scanUnits, parts, simpleEscape?]⟩
  · exact ⟨.jsonDecodeError, by simp [scanUnits, parts, simpleEscape?]⟩
  · have nothing : rest ++ more = [] := parts.2.2.2.2.2.2
    exact False.elim (cut (List.append_eq_nil_iff.mp nothing).2)

/-- A character with an escape of its own is read from that letter. -/
theorem scanUnits_letter {letter escaped : Char} (notUnicode : letter ≠ 'u')
    (known : simpleEscape? letter = some escaped) (rest : List Char) :
    scanUnits ('\\' :: letter :: rest) =
      (scanUnits rest).map fun found => (escaped.toNat :: found.1, found.2) := by
  -- Only the letter for hexadecimal escapes is treated apart.
  rw [scanUnits.eq_def]
  simp only [Char.reduceEq, if_false, if_true]
  split
  · rename_i same
    exact False.elim (notUnicode (List.cons.inj same).1)
  · rename_i same
    obtain ⟨rfl, rfl⟩ := List.cons.inj same
    simp [known]
  · rename_i same
    cases same

/-- The three shapes that an escaped character can have. -/
theorem escapeChar_cases (c : Char) :
    (∃ letter, letter ≠ 'u' ∧ simpleEscape? letter = some c ∧ escapeChar c = ['\\', letter]) ∨
    (c ≠ '"' ∧ c ≠ '\\' ∧ 0x20 ≤ c.toNat ∧ c.toNat < 0x7F ∧ escapeChar c = [c]) ∨
    (c.toNat < 0x10000 ∧ escapeChar c = escapeUnit c.toNat) ∨
    (0x10000 ≤ c.toNat ∧ escapeChar c =
      escapeUnit (0xD800 + (c.toNat - 0x10000) / 0x400) ++
        escapeUnit (0xDC00 + (c.toNat - 0x10000) % 0x400)) := by
  -- The writer's own cases, with the seven letters gathered into one.
  by_cases quote : c = '"'
  · subst c; exact .inl ⟨'"', by decide, rfl, rfl⟩
  by_cases backslash : c = '\\'
  · subst c; exact .inl ⟨'\\', by decide, rfl, rfl⟩
  by_cases newline : c = '\n'
  · subst c; exact .inl ⟨'n', by decide, rfl, rfl⟩
  by_cases carriage : c = '\r'
  · subst c; exact .inl ⟨'r', by decide, rfl, rfl⟩
  by_cases tab : c = '\t'
  · subst c; exact .inl ⟨'t', by decide, rfl, rfl⟩
  by_cases feed : c = '\x0c'
  · subst c; exact .inl ⟨'f', by decide, rfl, rfl⟩
  by_cases back : c = '\x08'
  · subst c; exact .inl ⟨'b', by decide, rfl, rfl⟩
  have text := escapeChar.eq_def c
  rw [if_neg quote, if_neg backslash, if_neg newline, if_neg carriage, if_neg tab, if_neg feed,
    if_neg back] at text
  by_cases printable : 0x20 ≤ c.toNat ∧ c.toNat ≤ 0x7E
  · rw [if_pos printable] at text
    exact .inr (.inl ⟨quote, backslash, printable.1, by omega, text⟩)
  rw [if_neg printable] at text
  by_cases basic : c.toNat < 0x10000
  · rw [if_pos basic] at text
    exact .inr (.inr (.inl ⟨basic, text⟩))
  · rw [if_neg basic] at text
    exact .inr (.inr (.inr ⟨Nat.le_of_not_lt basic, text⟩))

/-- Reading an escaped character yields its code units before whatever follows. -/
theorem scanUnits_escapeChar (c : Char) (rest : List Char) :
    scanUnits (escapeChar c ++ rest) =
      (scanUnits rest).map fun found => (charUnits c ++ found.1, found.2) := by
  -- A letter and a printable character stand for themselves, other characters for their units.
  have range := char_range c
  rcases escapeChar_cases c with ⟨letter, plain, known, text⟩ |
    ⟨notQuote, notBackslash, low, high, text⟩ | ⟨basic, text⟩ | ⟨beyond, text⟩
  · have basic : c.toNat < 0x10000 := by
      have all : ∀ escaped ∈ simpleEscape? letter, escaped.toNat < 0x10000 := by
        intro escaped member
        unfold simpleEscape? at member
        split at member <;> simp_all <;> subst member <;> decide
      exact all c known
    rw [text, List.cons_append, List.cons_append, List.nil_append, scanUnits_letter plain known]
    simp [charUnits, basic]
  · rw [text, List.cons_append, List.nil_append, scanUnits.eq_def]
    simp [notQuote, notBackslash, charUnits, show c.toNat < 0x10000 by omega,
      show ¬ c.toNat < 32 by omega]
  · rw [text, scanUnits_escapeUnit basic]
    simp [charUnits, basic]
  · rw [text, List.append_assoc, scanUnits_escapeUnit (by omega), scanUnits_escapeUnit (by omega)]
    cases scanUnits rest <;> simp [charUnits, Except.map, show ¬ c.toNat < 0x10000 by omega]

/-- Joining the units of a character gives the character back. -/
theorem joinUnits_charUnits (c : Char) (units : List Nat) :
    joinUnits (charUnits c ++ units) = c :: joinUnits units := by
  have range := char_range c
  by_cases basic : c.toNat < 0x10000
  · -- A unit that is no surrogate is never joined with the next one.
    have notHigh : isHighSurrogate c.toNat = false := by
      simp only [isHighSurrogate, Bool.and_eq_false_iff, decide_eq_false_iff_not]
      omega
    have notLow : isLowSurrogate c.toNat = false := by
      simp only [isLowSurrogate, Bool.and_eq_false_iff, decide_eq_false_iff_not]
      omega
    have same : unitChar c.toNat = c := by simp [unitChar, notHigh, notLow]
    cases units with
    | nil => simp [charUnits, basic, joinUnits, same]
    | cons unit rest => simp [charUnits, basic, joinUnits, notHigh, same]
  · -- The two halves are recognised and their offsets put together again.
    have high : isHighSurrogate (0xD800 + (c.toNat - 0x10000) / 0x400) = true := by
      simp only [isHighSurrogate, Bool.and_eq_true, decide_eq_true_eq]
      omega
    have low : isLowSurrogate (0xDC00 + (c.toNat - 0x10000) % 0x400) = true := by
      simp only [isLowSurrogate, Bool.and_eq_true, decide_eq_true_eq]
      omega
    have whole : 0x10000 + (0xD800 + (c.toNat - 0x10000) / 0x400 - 0xD800) * 0x400 +
        (0xDC00 + (c.toNat - 0x10000) % 0x400 - 0xDC00) = c.toNat := by omega
    simp only [charUnits, if_neg basic, List.cons_append, List.nil_append, joinUnits, high, low,
      Bool.and_self, if_true, whole, Char.ofNat_toNat]

/-- The units of a written string, up to the closing quote. -/
theorem scanUnits_flatMap (chars rest : List Char) :
    scanUnits (chars.flatMap escapeChar ++ '"' :: rest) = .ok (chars.flatMap charUnits, rest) := by
  -- Characters are read one at a time until the quote.
  induction chars with
  | nil =>
    rw [List.flatMap_nil, List.nil_append, scanUnits.eq_def]
    simp
  | cons c chars ih =>
    rw [List.flatMap_cons, List.append_assoc, scanUnits_escapeChar, ih]
    simp [Except.map]

/-- Joining the units of all characters gives the characters back. -/
theorem joinUnits_flatMap (chars : List Char) : joinUnits (chars.flatMap charUnits) = chars := by
  -- Each character comes back before the units of the next one are looked at.
  induction chars with
  | nil => rfl
  | cons c chars ih => rw [List.flatMap_cons, joinUnits_charUnits, ih]

/-- A written string reads back as itself. -/
theorem scanString_dump (value : String) (rest : List Char) :
    scanString (value.toList.flatMap escapeChar ++ '"' :: rest) = .ok (value, rest) := by
  -- The units of the characters are read and joined.
  simp [scanString, scanUnits_flatMap, joinUnits_flatMap, Except.map]

/-- An escaped character that is cut short cannot be read. -/
theorem scanUnits_escapeChar_cut {c : Char} {text more : List Char} (cut : more ≠ [])
    (parts : text ++ more = escapeChar c) : ∃ error, scanUnits text = .error error := by
  -- A prefix ends before the escape does, or between the halves of a surrogate pair.
  rcases escapeChar_cases c with ⟨letter, _, _, whole⟩ | ⟨_, _, _, _, whole⟩ | ⟨_, whole⟩ |
    ⟨beyond, whole⟩
  · rw [whole] at parts
    rcases text with _ | ⟨a, _ | ⟨b, text⟩⟩
    · exact ⟨_, rfl⟩
    · simp only [List.cons_append, List.cons.injEq] at parts
      exact ⟨.jsonDecodeError, by simp [scanUnits, parts.1]⟩
    · simp only [List.cons_append, List.cons.injEq, List.append_eq_nil_iff] at parts
      exact False.elim (cut parts.2.2.2)
  · rw [whole] at parts
    rcases text with _ | ⟨a, text⟩
    · exact ⟨_, rfl⟩
    · simp only [List.cons_append, List.cons.injEq, List.append_eq_nil_iff] at parts
      exact False.elim (cut parts.2.2)
  · exact scanUnits_escapeUnit_cut cut (parts.trans whole)
  · rw [whole] at parts
    have range := char_range c
    rcases List.append_eq_append_iff.mp parts with ⟨missing, first, _⟩ | ⟨extra, first, second⟩
    · by_cases complete : missing = []
      · subst missing
        rw [List.append_nil] at first
        refine ⟨.jsonDecodeError, ?_⟩
        rw [← first, ← List.append_nil (escapeUnit _), scanUnits_escapeUnit (by omega)]
        rfl
      · exact scanUnits_escapeUnit_cut complete first.symm
    · obtain ⟨error, failed⟩ := scanUnits_escapeUnit_cut cut second.symm
      exact ⟨error, by rw [first, scanUnits_escapeUnit (by omega), failed]; rfl⟩

/-- A string that is cut short before its closing quote cannot be read. -/
theorem scanUnits_cut {chars text more : List Char} (cut : more ≠ [])
    (parts : text ++ more = chars.flatMap escapeChar ++ ['"']) :
    ∃ error, scanUnits text = .error error := by
  -- The cut falls into some character or right before the quote.
  induction chars generalizing text with
  | nil =>
    rcases text with _ | ⟨c, text⟩
    · exact ⟨_, rfl⟩
    · simp only [List.flatMap_nil, List.nil_append, List.cons_append, List.cons.injEq,
        List.append_eq_nil_iff] at parts
      exact False.elim (cut parts.2.2)
  | cons c chars ih =>
    rw [List.flatMap_cons, List.append_assoc] at parts
    rcases List.append_eq_append_iff.mp parts with ⟨missing, first, _⟩ | ⟨extra, first, second⟩
    · by_cases complete : missing = []
      · -- The character is whole, and nothing at all follows it.
        subst missing
        rw [List.append_nil] at first
        exact ⟨.jsonDecodeError, by
          rw [← first, ← List.append_nil (escapeChar c), scanUnits_escapeChar]; rfl⟩
      · exact scanUnits_escapeChar_cut complete first.symm
    · obtain ⟨error, failed⟩ := ih second.symm
      exact ⟨error, by rw [first, scanUnits_escapeChar, failed]; rfl⟩

/-- A string that is cut short before its closing quote cannot be read. -/
theorem scanString_cut {chars text more : List Char} (cut : more ≠ [])
    (parts : text ++ more = chars.flatMap escapeChar ++ ['"']) :
    ∃ error, scanString text = .error error := by
  -- A string fails when its units do.
  obtain ⟨error, failed⟩ := scanUnits_cut cut parts
  exact ⟨error, by simp [scanString, failed, Except.map]⟩

end Absm
