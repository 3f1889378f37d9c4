import Mathlib.Data.List.TakeWhile
import Absm.Proofs.Foundation.JsonCut

/-! Documents that were written in part, with other documents behind them, cannot be read. -/

namespace Absm

/-! ### More room -/

section Room

variable {α β F : Type}

/-- One scanner reads like another one unless it runs out of room. -/
def Deepens (shallow deep : Scanner α) : Prop :=
  -- With more room a scanner does the same, unless it has failed for lack of room.
  ∀ text, shallow text = .error .recursionError ∨ shallow text = deep text

/-- Parts are read alike. -/
theorem Deepens.separated {shallow deep : Scanner α} (deepens : Deepens shallow deep) (close : Char)
    (add : β → α → β) (budget : Nat) (sofar : β) :
    Deepens (scanSeparated close shallow add budget sofar) (scanSeparated close deep add budget sofar) := by
  induction budget generalizing sofar with
  | zero => exact fun text => .inr rfl
  | succ budget ih =>
    intro text
    rcases deepens text with failed | same
    · exact .inl (by simp [scanSeparated, failed, Bind.bind, Except.bind])
    · -- The part is the same, and so is what follows it.
      simp only [scanSeparated, same, Bind.bind, Except.bind]
      cases deep text with
      | error error => exact .inr rfl
      | ok found =>
        dsimp only
        split
        · exact .inr rfl
        · split
          · exact .inr rfl
          · split
            · exact ih _ _
            · exact .inr rfl

/-- Members are read alike. -/
theorem Deepens.member {shallow deep : Scanner (Json F)} (deepens : Deepens shallow deep) :
    Deepens (scanMember shallow) (scanMember deep) := by
  -- Key and colon are read without the scanner, and the value by it.
  intro text
  rcases text with _ | ⟨c, text⟩
  · exact .inr rfl
  simp only [scanMember, Bind.bind, Except.bind]
  split
  · cases scanString text with
    | error error => exact .inr rfl
    | ok found =>
      dsimp only
      split
      · exact .inr rfl
      · split
        · rename_i rest _ _
          rcases deepens (skipWhitespace rest) with failed | same
          · exact .inl (by rw [failed])
          · exact .inr (by rw [same])
        · exact .inr rfl
  · exact .inr rfl

/-- What a scanner reads is put to use alike. -/
theorem Deepens.map {shallow deep : Except LoadsError (α × List Char)}
    (deepens : shallow = .error .recursionError ∨ shallow = deep) (use : α × List Char → β × List Char) :
    shallow.map use = .error .recursionError ∨ shallow.map use = deep.map use := by
  -- What is done with the result does not matter.
  rcases deepens with rfl | rfl
  · exact .inl rfl
  · exact .inr rfl

variable [JsonFloat F]

/-- Values are read alike with more room. -/
theorem scanValue_deepens {shallow deep : Scanner (Json F)} (deepens : Deepens shallow deep) :
    Deepens (scanValue (some shallow)) (scanValue (some deep)) := by
  -- Only containers are read with the scanner for what is inside.
  intro text
  rcases text with _ | ⟨c, text⟩
  · exact .inr rfl
  simp only [scanValue]
  split
  · exact .inr rfl
  · split
    · unfold scanObject
      dsimp only
      split
      · exact .inr rfl
      · exact Deepens.map (deepens.member.separated _ _ _ _ _) _
    · split
      · unfold scanArray
        dsimp only
        split
        · exact .inr rfl
        · exact Deepens.map (deepens.separated _ _ _ _ _) _
      · exact .inr rfl

/-- Without room, a value is read like with some unless it is a container. -/
theorem scanValue_none_deepens (deep : Scanner (Json F)) :
    Deepens (scanValue none) (scanValue (some deep)) := by
  -- Where there is no room, a container fails with the error that is allowed.
  intro text
  rcases text with _ | ⟨c, text⟩
  · exact .inr rfl
  simp only [scanValue]
  split
  · exact .inr rfl
  · split
    · exact .inl rfl
    · split
      · exact .inl rfl
      · exact .inr rfl

/-- With more room, a value is read alike unless the room runs out. -/
theorem scanOnce_deepens (room more : Nat) :
    Deepens (scanOnce room : Scanner (Json F)) (scanOnce (room + more)) := by
  -- Containers leave one level of room less on both sides.
  induction room with
  | zero =>
    cases more with
    | zero => exact fun _ => .inr rfl
    | succ more => exact scanValue_none_deepens _
  | succ room ih =>
    rw [Nat.add_right_comm]
    exact scanValue_deepens ih

end Room

/-! ### What follows -/

/-- A character that neither separates nor closes anything. -/
def Foreign (c : Char) : Prop :=
  -- A new record opens with a brace, and the keys at hand have plain characters.
  c = '{' ∨ plainChar c = true

/-- A foreign character is no whitespace and none of the characters between values. -/
theorem Foreign.apart {c : Char} (foreign : Foreign c) :
    c.isWhitespace = false ∧ c ≠ ',' ∧ c ≠ ':' ∧ c ≠ ']' ∧ c ≠ '}' ∧ c ≠ '"' := by
  -- Plain characters are checked one by one.
  rcases foreign with rfl | plain
  · decide
  · refine ⟨plainChar_visible plain, ?_, ?_, ?_, ?_, ?_⟩ <;>
      · rintro rfl
        exact absurd plain (by decide)

/-- A text that begins as objects do whose first key begins with a plain character, perhaps cut short and
with others behind it. -/
inductive Resumes : List Char → Prop where
  /-- Nothing but the brace. -/
  | last : Resumes ['{']
  /-- Only the brace, and another such text. -/
  | again {rest : List Char} (resumes : Resumes rest) : Resumes ('{' :: rest)
  /-- The brace, the quote of the first key, and the key. -/
  | key {rest : List Char} (foreign : ∀ c ∈ rest.head?, Foreign c) : Resumes ('{' :: '"' :: rest)

/-- Such a text begins with a brace. -/
theorem Resumes.head {text : List Char} (resumes : Resumes text) : ∃ rest, text = '{' :: rest := by
  -- Each way to resume opens an object.
  cases resumes <;> exact ⟨_, rfl⟩

/-- A scan that fails, or leaves over what no container accepts behind a value. -/
def Blocked {α : Type} (result : Except LoadsError (α × List Char)) : Prop :=
  -- Whatever is read stops before a character that no document goes on with.
  ∀ value rest, result = .ok (value, rest) → ∀ c ∈ rest.head?, Foreign c

section Blocked

variable {α β : Type}

/-- A failing scan is blocked. -/
theorem Blocked.of_error {result : Except LoadsError (α × List Char)}
    (failed : ∃ error, result = .error error) : Blocked result := by
  -- An error reads nothing.
  obtain ⟨error, rfl⟩ := failed
  intro value rest read
  cases read

/-- What is made of a blocked scan is blocked. -/
theorem Blocked.map {result : Except LoadsError (α × List Char)} (blocked : Blocked result) (use : α → β) :
    Blocked (result.map fun found => (use found.1, found.2)) := by
  -- What is made of the value leaves the rest of the text as it is.
  rcases result with error | ⟨value, rest⟩
  · exact .of_error ⟨_, rfl⟩
  · intro other same read
    cases read
    exact blocked value _ rfl

/-- A scan is blocked if it is with more room. -/
theorem Blocked.shallow {shallow deep : Except LoadsError (α × List Char)}
    (deepens : shallow = .error .recursionError ∨ shallow = deep) (blocked : Blocked deep) :
    Blocked shallow := by
  -- At less depth the reader stops earlier or does the same.
  rcases deepens with rfl | rfl
  · exact .of_error ⟨_, rfl⟩
  · exact blocked

end Blocked

/-! ### Strings -/

/-- A string that goes on with such a text ends at its quote, if at all. -/
theorem scanUnits_resumes {text : List Char} (resumes : Resumes text) : Blocked (scanUnits text) := by
  -- The braces belong to the string.
  induction resumes with
  | last => exact .of_error ⟨.jsonDecodeError, rfl⟩
  | again resumes ih =>
    have step := ih.map fun units => '{'.toNat :: units
    rw [scanUnits.eq_def]
    simpa using step
  | @key rest foreign =>
    have quote : scanUnits ('"' :: rest) = .ok ([], rest) := by
      rw [scanUnits.eq_def]
      rfl
    have step : scanUnits ('{' :: '"' :: rest) = .ok (['{'.toNat], rest) := by
      rw [scanUnits.eq_def]
      simp [quote, Except.map]
    intro units other read
    cases step.symm.trans read
    exact foreign

/-- Four characters with a brace among them are no code unit. -/
theorem hex4?_brace {a b c d : Char} (brace : a = '{' ∨ b = '{' ∨ c = '{' ∨ d = '{') :
    hex4? a b c d = none := by
  -- One digit that is none spoils the escape.
  have none : hexDigit? '{' = none := by decide
  unfold hex4?
  rcases brace with rfl | rfl | rfl | rfl <;> simp [none]

/-- Behind a backslash, a brace stands for nothing. -/
theorem scanUnits_backslash_brace (rest : List Char) :
    ∃ error, scanUnits ('\\' :: '{' :: rest) = .error error := by
  -- A brace is no simple escape and no `u`.
  refine ⟨.jsonDecodeError, ?_⟩
  rw [scanUnits.eq_def]
  simp [simpleEscape?]

/-- A code unit that lacks digits before a brace cannot be read. -/
theorem scanUnits_unit_brace {digits : List Char} (few : digits.length < 4) (rest : List Char) :
    ∃ error, scanUnits ('\\' :: 'u' :: (digits ++ '{' :: rest)) = .error error := by
  refine ⟨.jsonDecodeError, ?_⟩
  rw [scanUnits.eq_def]
  simp only [Char.reduceEq, if_false, if_true]
  split
  · -- The brace is among the four characters that are taken for digits.
    rename_i h3 h2 h1 h0 _ text
    have brace : h3 = '{' ∨ h2 = '{' ∨ h1 = '{' ∨ h0 = '{' := by
      rcases digits with _ | ⟨a, _ | ⟨b, _ | ⟨c, _ | ⟨d, digits⟩⟩⟩⟩ <;> grind
    simp [hex4?_brace brace]
  · -- Otherwise the letter is looked up among the simple escapes.
    rename_i text
    obtain ⟨rfl, rfl⟩ := List.cons.inj text
    simp [simpleEscape?]
  · rename_i text
    cases text

section Torn

variable {torn : List Char} (resumes : Resumes torn)
include resumes

/-- An escaped code unit that is cut short before such a text is not read to a separator. -/
theorem scanUnits_escapeUnit_torn {unit : Nat} {before more : List Char} (cut : more ≠ [])
    (parts : before ++ more = escapeUnit unit) : Blocked (scanUnits (before ++ torn)) := by
  obtain ⟨rest, rfl⟩ := resumes.head
  -- Without anything of the escape the brace belongs to the string, and otherwise it is in the escape.
  rcases before with _ | ⟨a, _ | ⟨b, digits⟩⟩
  · exact scanUnits_resumes resumes
  · obtain ⟨rfl, _⟩ := List.cons.inj parts
    exact .of_error (scanUnits_backslash_brace rest)
  · simp only [escapeUnit, List.cons_append, List.cons.injEq] at parts
    obtain ⟨rfl, rfl, parts⟩ := parts
    have few : digits.length < 4 := by
      have lengths := congrArg List.length parts
      have some := List.length_pos_iff.mpr cut
      simp only [List.length_append, List.length_cons, List.length_nil] at lengths
      omega
    exact .of_error (scanUnits_unit_brace few rest)

/-- An escaped character that is cut short before such a text is not read to a separator. -/
theorem scanUnits_escapeChar_torn {c : Char} {before more : List Char} (cut : more ≠ [])
    (parts : before ++ more = escapeChar c) : Blocked (scanUnits (before ++ torn)) := by
  -- The shapes are those in which a character is written.
  rcases escapeChar_cases c with ⟨letter, _, _, whole⟩ | ⟨_, _, _, _, whole⟩ | ⟨_, whole⟩ |
    ⟨beyond, whole⟩
  · rw [whole] at parts
    rcases before with _ | ⟨a, before⟩
    · exact scanUnits_resumes resumes
    · obtain ⟨rfl, letters⟩ := List.cons.inj parts
      obtain ⟨rest, rfl⟩ := resumes.head
      rw [eq_nil_of_cut_singleton cut letters]
      exact .of_error (scanUnits_backslash_brace rest)
  · rw [whole] at parts
    rw [eq_nil_of_cut_singleton cut parts]
    exact scanUnits_resumes resumes
  · exact scanUnits_escapeUnit_torn resumes cut (parts.trans whole)
  · rw [whole] at parts
    have range := char_range c
    rcases List.append_eq_append_iff.mp parts with ⟨missing, first, _⟩ | ⟨extra, first, second⟩
    · by_cases complete : missing = []
      · -- Between the halves of a pair the string goes on.
        rw [complete, List.append_nil] at first
        rw [← first, scanUnits_escapeUnit (by omega)]
        exact (scanUnits_resumes resumes).map _
      · exact scanUnits_escapeUnit_torn resumes complete first.symm
    · rw [first, List.append_assoc, scanUnits_escapeUnit (by omega)]
      exact (scanUnits_escapeUnit_torn resumes cut second.symm).map _

/-- A string that is cut short before such a text is not read to a separator. -/
theorem scanUnits_torn {chars before more : List Char} (cut : more ≠ [])
    (parts : before ++ more = chars.flatMap escapeChar ++ ['"']) :
    Blocked (scanUnits (before ++ torn)) := by
  -- The cut falls into the escape of one character, and those before it are read as they are.
  induction chars generalizing before with
  | nil =>
    rw [eq_nil_of_cut_singleton cut parts]
    exact scanUnits_resumes resumes
  | cons c chars ih =>
    rw [List.flatMap_cons, List.append_assoc] at parts
    rcases List.append_eq_append_iff.mp parts with ⟨missing, first, _⟩ | ⟨extra, first, second⟩
    · by_cases complete : missing = []
      · rw [complete, List.append_nil] at first
        rw [← first, scanUnits_escapeChar]
        exact (scanUnits_resumes resumes).map _
      · exact scanUnits_escapeChar_torn resumes complete first.symm
    · rw [first, List.append_assoc, scanUnits_escapeChar]
      exact (ih second.symm).map _

/-- A string that is cut short before such a text is not read to a separator. -/
theorem scanString_torn {chars before more : List Char} (cut : more ≠ [])
    (parts : before ++ more = chars.flatMap escapeChar ++ ['"']) :
    Blocked (scanString (before ++ torn)) :=
  -- The code units are joined afterwards, which leaves the rest alone.
  (scanUnits_torn resumes cut parts).map fun units => String.ofList (joinUnits units)

end Torn

/-! ### Numbers and constants -/

/-- Between a text and the rest of it, nothing but plain characters was read. -/
def ReadPlain (text rest : List Char) : Prop :=
  -- The characters read are those in front of the rest.
  ∃ used, text = used ++ rest ∧ ∀ c ∈ used, plainChar c = true

/-- Nothing was read. -/
theorem ReadPlain.refl (text : List Char) : ReadPlain text text :=
  -- Nothing is read.
  ⟨[], rfl, by simp⟩

/-- One character was read, and what was read behind it. -/
theorem ReadPlain.cons {c : Char} (plain : plainChar c = true) {text rest : List Char}
    (read : ReadPlain text rest) : ReadPlain (c :: text) rest := by
  -- One more plain character is read in front.
  obtain ⟨used, rfl, all⟩ := read
  exact ⟨c :: used, rfl, List.forall_mem_cons.mpr ⟨plain, all⟩⟩

/-- One thing was read after the other. -/
theorem ReadPlain.trans {text middle rest : List Char} (first : ReadPlain text middle)
    (second : ReadPlain middle rest) : ReadPlain text rest := by
  -- What the first reads comes before what the second reads.
  obtain ⟨used, rfl, all⟩ := first
  obtain ⟨more, rfl, others⟩ := second
  exact ⟨used ++ more, (List.append_assoc ..).symm, fun c member =>
    (List.mem_append.mp member).elim (all c) (others c)⟩

/-- Digits are plain. -/
theorem plainChar_of_isDigit {c : Char} (digit : c.isDigit = true) : plainChar c = true := by
  -- Digits are letters or digits.
  simp [plainChar, Char.isAlphanum, digit]

/-- A run of digits was read. -/
theorem readPlain_digits (text : List Char) : ReadPlain text (text.dropWhile Char.isDigit) :=
  -- The digits are taken off the front.
  ⟨text.takeWhile Char.isDigit, (List.takeWhile_append_dropWhile).symm, fun _ member =>
    plainChar_of_isDigit (List.mem_takeWhile_imp member)⟩

/-- The digits of an integer are read. -/
theorem integerPart_readPlain {text digits rest : List Char}
    (found : integerPart text = some (digits, rest)) : ReadPlain text rest := by
  -- An integer is a single zero or a run of digits.
  rcases text with _ | ⟨c, text⟩
  · simp [integerPart] at found
  · simp only [integerPart] at found
    split at found
    · rename_i zero
      cases found
      exact .cons (by rw [zero]; decide) (.refl _)
    · split at found
      · rename_i digit
        cases found
        exact .cons (plainChar_of_isDigit digit) (readPlain_digits text)
      · cases found

/-- A fraction is read, if there is one. -/
theorem fractionPart_readPlain (text : List Char) : ReadPlain text (fractionPart text).2 := by
  -- Without a digit behind the point nothing is read.
  unfold fractionPart
  split
  · split
    · exact .refl _
    · exact .cons (by decide) (readPlain_digits _)
  · exact .refl _

/-- A sign is read, if there is one. -/
theorem signPart_readPlain (text : List Char) : ReadPlain text (signPart text).2 := by
  -- A sign is one character, `+` or `-`, or there is none.
  unfold signPart
  split
  · exact .cons (by decide) (.refl _)
  · exact .cons (by decide) (.refl _)
  · exact .refl _

/-- An exponent is read, if there is one. -/
theorem exponentPart_readPlain (text : List Char) : ReadPlain text (exponentPart text).2 := by
  -- Without a digit behind marker and sign nothing is read.
  unfold exponentPart
  split
  · rename_i c rest
    split
    · rename_i marker
      have plain : plainChar c = true := by rcases marker with rfl | rfl <;> decide
      dsimp only
      split
      · exact .refl _
      · exact .cons plain ((signPart_readPlain rest).trans (readPlain_digits _))
    · exact .refl _
  · exact .refl _

section Atoms

variable {F : Type} [JsonFloat F]

/-- A number is read. -/
theorem scanNumber_readPlain {text rest : List Char} {value : Json F}
    (read : scanNumber text = .ok (value, rest)) : ReadPlain text rest := by
  -- The parts of a number are scanned one behind the other.
  unfold scanNumber at read
  dsimp only at read
  split at read
  · cases read
  · rename_i digits after found
    have whole : ReadPlain text after := by
      have body := integerPart_readPlain found
      split at body
      · rename_i negative
        obtain ⟨rest, rfl⟩ : ∃ rest, text = '-' :: rest := by
          rcases text with _ | ⟨c, text⟩
          · simp at negative
          · exact ⟨text, by simpa using negative⟩
        exact .cons (by decide) body
      · exact body
    have parts := whole.trans ((fractionPart_readPlain after).trans
      (exponentPart_readPlain (fractionPart after).2))
    split at read
    · split at read
      · cases read
      · cases read
        exact parts
    · cases read
      exact parts

/-- A constant or a number is read. -/
theorem scanAtom_readPlain {text rest : List Char} {value : Json F}
    (read : scanAtom text = .ok (value, rest)) : ReadPlain text rest := by
  unfold scanAtom at read
  split at read
  · rename_i word _ found
    cases read
    -- The words of the constants are plain.
    have start := List.find?_some found
    have words : ∀ constant ∈ (constants : List (List Char × Json F)), ∀ c ∈ constant.1,
        plainChar c = true := by
      intro constant member
      simp only [constants, List.mem_cons, List.not_mem_nil, or_false] at member
      rcases member with rfl | rfl | rfl | rfl | rfl | rfl <;>
        · refine List.all_eq_true.mp ?_
          dsimp only
          decide
    obtain ⟨rest, rfl⟩ := List.isPrefixOf_iff_prefix.mp start
    exact ⟨word, by simp, words _ (List.mem_of_find?_eq_some found)⟩
  · exact scanNumber_readPlain read

/-- Part of a plain text before a brace is not read beyond the brace. -/
theorem scanAtom_torn {before rest : List Char} (plain : ∀ c ∈ before, plainChar c = true) :
    Blocked (scanAtom (before ++ '{' :: rest) : Except LoadsError (Json F × List Char)) := by
  intro value after read c first
  obtain ⟨used, text, all⟩ := scanAtom_readPlain read
  rcases List.append_eq_append_iff.mp text with ⟨more, whole, left⟩ | ⟨more, whole, left⟩
  · -- What was read does not go beyond the brace.
    have nothing : more = [] := by
      rcases more with _ | ⟨d, more⟩
      · rfl
      · have brace : '{' ∈ used := by
          rw [whole, ← (List.cons.inj left).1]
          simp
        exact absurd (all '{' brace) (by decide)
    rw [nothing, List.nil_append] at left
    rw [← left] at first
    exact .inl (Option.some.inj first).symm
  · rw [left] at first
    rcases more with _ | ⟨d, more⟩
    · exact .inl (Option.some.inj first).symm
    · refine .inr (plain c ?_)
      rw [whole, ← Option.some.inj first]
      simp

end Atoms

/-! ### Containers -/

section Containers

variable {α β : Type}

/-- A blocked part ends the reading of all parts with an error. -/
theorem scanSeparated_blocked {close : Char} (closing : close = ']' ∨ close = '}') {scan : Scanner α}
    {add : β → α → β} {budget : Nat} {sofar : β} {text : List Char} (blocked : Blocked (scan text)) :
    ∃ error, scanSeparated close scan add budget sofar text = .error error := by
  cases budget with
  | zero => exact ⟨_, rfl⟩
  | succ budget =>
    cases read : scan text with
    | error error => exact ⟨error, by simp [scanSeparated, read, Bind.bind, Except.bind]⟩
    | ok found =>
      obtain ⟨part, rest⟩ := found
      refine ⟨.jsonDecodeError, ?_⟩
      -- Behind the part there is nothing, or a character that is neither comma nor bracket.
      rcases rest with _ | ⟨c, rest⟩
      · simp [scanSeparated, read, Bind.bind, Except.bind]
      · obtain ⟨shown, comma, _, bracket, brace, _⟩ := (blocked part (c :: rest) read c rfl).apart
        have open' : c ≠ close := by rcases closing with rfl | rfl <;> assumption
        simp [scanSeparated, read, Bind.bind, Except.bind, skipWhitespace_cons _ shown, comma, open']

/-- The start of a text with a visible first character is not shortened before such a text. -/
theorem skipWhitespace_torn {torn : List Char} (resumes : Resumes torn) {before more whole : List Char}
    (parts : before ++ more = whole) (visible : ∃ c rest, whole = c :: rest ∧ c.isWhitespace = false) :
    skipWhitespace (before ++ torn) = before ++ torn := by
  -- The first character is that of the text, or of what follows the cut.
  obtain ⟨c, rest, rfl, shown⟩ := visible
  rcases before with _ | ⟨head, before⟩
  · obtain ⟨rest, rfl⟩ := resumes.head
    exact skipWhitespace_cons _ (by decide)
  · rw [List.cons_append, List.cons.injEq] at parts
    rw [List.cons_append, parts.1, skipWhitespace_cons _ shown]

/-- Parts behind commas that are cut short before such a text cannot be read. -/
theorem scanSeparated_torn {torn : List Char} (resumes : Resumes torn) {close : Char}
    (closing : close = ']' ∨ close = '}') (scan : Scanner α) (add : β → α → β) (text : α → List Char)
    {parts : List α} (part : α)
    (visible : ∀ p ∈ part :: parts, ∃ c rest, text p = c :: rest ∧ c.isWhitespace = false)
    (reads : ∀ p ∈ part :: parts, ∀ rest, Ends rest → scan (text p ++ rest) = .ok (p, rest))
    (blocked : ∀ p ∈ part :: parts, ∀ before more, before ++ more = text p →
      Blocked (scan (before ++ torn)))
    (sofar : β) (budget : Nat) {before more : List Char} (cut : more ≠ [])
    (whole : before ++ more = text part ++ separated close text parts) :
    ∃ error, scanSeparated close scan add budget sofar (before ++ torn) = .error error := by
  -- The cut falls into the first part, right behind it, or into the parts that follow.
  induction parts generalizing part sofar budget before with
  | nil =>
    apply scanSeparated_blocked closing
    rcases List.append_eq_append_iff.mp whole with ⟨missing, first, _⟩ | ⟨extra, first, second⟩
    · exact blocked part (by simp) before missing first.symm
    · have nothing : extra = [] := eq_nil_of_cut_singleton cut second.symm
      rw [nothing] at first
      exact blocked part (by simp) before [] (by simpa using first)
  | cons next parts ih =>
    rcases List.append_eq_append_iff.mp whole with ⟨missing, first, _⟩ | ⟨extra, first, second⟩
    · exact scanSeparated_blocked closing (blocked part (by simp) before missing first.symm)
    · rcases extra with _ | ⟨c, extra⟩
      · exact scanSeparated_blocked closing (blocked part (by simp) before [] (by simpa using first))
      · -- The comma is there, so the error comes from the parts behind it.
        have rest : extra ++ more = text next ++ separated close text parts ∧ c = ',' := by
          simp only [separated, List.flatMap_cons, List.cons_append, List.append_assoc,
            List.cons.injEq] at second
          exact ⟨by simp [separated, second.2], second.1.symm⟩
        obtain ⟨rest, rfl⟩ := rest
        have read := reads part (by simp) (',' :: (extra ++ torn)) (by simp [Ends])
        have different : (',' : Char) ≠ close := by rcases closing with rfl | rfl <;> decide
        obtain ⟨c, tail, head, shown⟩ := visible next (by simp)
        have kept := skipWhitespace_torn resumes rest ⟨c, tail ++ separated close text parts,
          by rw [head, List.cons_append], shown⟩
        cases budget with
        | zero => exact ⟨_, rfl⟩
        | succ budget =>
          obtain ⟨error, failed⟩ := ih next
            (fun p member => visible p (List.mem_cons_of_mem _ member))
            (fun p member => reads p (List.mem_cons_of_mem _ member))
            (fun p member => blocked p (List.mem_cons_of_mem _ member)) (add sofar part) budget rest
          exact ⟨error, by
            simp [scanSeparated, first, read, Bind.bind, Except.bind, different, kept, failed,
              show (',' : Char).isWhitespace = false from by decide]⟩

variable {F : Type} [FloatRepr F] {torn : List Char}

/-- A key and its value that are cut short before such a text are not read to a separator. -/
theorem scanMember_torn (resumes : Resumes torn) {scan : Scanner (Json F)} {entry : String × Json F}
    {room : Nat} (printable : Printable room entry.2)
    (blocked : ∀ before more, before ++ more = dump entry.2 → Blocked (scan (before ++ torn)))
    {before more : List Char} (whole : before ++ more = dumpMember entry) :
    Blocked (scanMember scan (before ++ torn)) := by
  obtain ⟨rest, brace⟩ := resumes.head
  rw [dumpMember_eq] at whole
  rcases before with _ | ⟨c, before⟩
  · -- A brace is no key.
    rw [List.nil_append, brace]
    exact .of_error ⟨_, rfl⟩
  · rw [List.cons_append, List.cons.injEq] at whole
    obtain ⟨rfl, whole⟩ := whole
    have key : before ++ more =
        (entry.1.toList.flatMap escapeChar ++ ['"']) ++ ':' :: dump entry.2 := by simp [whole]
    have closed : scanMember scan ('"' :: (entry.1.toList.flatMap escapeChar ++ '"' :: torn)) =
        .error .jsonDecodeError := by
      simp [scanMember, scanString_dump, Bind.bind, Except.bind, brace,
        skipWhitespace_cons _ (show ('{' : Char).isWhitespace = false from by decide)]
    rcases List.append_eq_append_iff.mp key with ⟨missing, first, _⟩ | ⟨extra, first, second⟩
    · by_cases complete : missing = []
      · rw [complete, List.append_nil] at first
        rw [List.cons_append, ← first, List.append_assoc, List.singleton_append]
        exact .of_error ⟨_, closed⟩
      · -- The key ends at the quote of another one, and no colon follows.
        have inside := scanString_torn resumes complete first.symm
        rw [List.cons_append, scanMember, if_pos rfl]
        cases read : scanString (before ++ torn) with
        | error error => exact .of_error ⟨error, rfl⟩
        | ok found =>
          obtain ⟨name, rest⟩ := found
          refine .of_error ⟨.jsonDecodeError, ?_⟩
          rcases rest with _ | ⟨c, rest⟩
          · rfl
          · obtain ⟨shown, _, colon, _⟩ := (inside name (c :: rest) read c rfl).apart
            simp [Bind.bind, Except.bind, skipWhitespace_cons _ shown, colon]
    · rcases extra with _ | ⟨c, extra⟩
      · rw [first, List.append_nil, List.cons_append, List.append_assoc, List.singleton_append]
        exact .of_error ⟨_, closed⟩
      · -- The value is cut short.
        rw [List.cons_append, List.cons.injEq] at second
        obtain ⟨rfl, second⟩ := second
        obtain ⟨c, tail, head, shown, _⟩ := printable.head
        have kept := skipWhitespace_torn resumes second.symm ⟨c, tail, head, shown⟩
        have inner := blocked extra more second.symm
        have text : '"' :: before ++ torn =
            '"' :: (entry.1.toList.flatMap escapeChar ++ '"' :: ':' :: (extra ++ torn)) := by
          simp [first]
        rw [text]
        simp only [scanMember, if_true, scanString_dump, Bind.bind, Except.bind,
          skipWhitespace_cons _ (show (':' : Char).isWhitespace = false from by decide), kept]
        cases read : scan (extra ++ torn) with
        | error error => exact .of_error ⟨error, rfl⟩
        | ok found =>
          intro value rest same
          cases same
          exact inner _ _ read

/-- The start of a text before such a text does not begin with a bracket that the text does not begin
with. -/
theorem head?_torn (resumes : Resumes torn) {c close : Char} (closing : close = ']' ∨ close = '}')
    {text before more : List Char} (differs : c ≠ close) (whole : before ++ more = c :: text) :
    (before ++ torn).head? ≠ some close := by
  -- The first character is that of the text, or of what follows the cut.
  rcases before with _ | ⟨d, before⟩
  · obtain ⟨rest, rfl⟩ := resumes.head
    rcases closing with rfl | rfl <;> simp
  · rw [List.cons_append, List.cons.injEq] at whole
    simpa [whole.1] using differs

/-- A list that is cut short before such a text cannot be read, if its items are blocked. -/
theorem scanOnce_array_torn (resumes : Resumes torn) {room : Nat}
    (alone : Blocked (scanOnce room torn : Except LoadsError (Json F × List Char))) {items : List (Json F)}
    (inside : ∀ item ∈ items, Printable room item)
    (blocked : ∀ item ∈ items, ∀ before more, before ++ more = dump item →
      Blocked (scanOnce room (before ++ torn) : Except LoadsError (Json F × List Char)))
    {before more : List Char} (some : before ≠ []) (cut : more ≠ [])
    (whole : before ++ more = dump (.array items)) :
    ∃ error, (scanOnce (room + 1) (before ++ torn) : Except LoadsError (Json F × List Char)) =
      .error error := by
  -- Behind the opening bracket the cut falls into the items or in front of the closing bracket.
  obtain ⟨c, before, rfl⟩ := List.exists_cons_of_ne_nil some
  cases items with
  | nil =>
    rw [dump, List.cons_append, List.cons.injEq] at whole
    obtain ⟨rfl, whole⟩ := whole
    rw [eq_nil_of_cut_singleton cut whole, List.singleton_append]
    obtain ⟨rest, rfl⟩ := resumes.head
    obtain ⟨error, failed⟩ : ∃ error, scanSeparated ']' (scanOnce room : Scanner (Json F))
        (fun items item => items ++ [item]) ('{' :: rest).length [] ('{' :: rest) = .error error :=
      scanSeparated_blocked (.inl rfl) alone
    refine ⟨error, ?_⟩
    simp only [scanOnce, scanValue, Char.reduceEq, if_false, if_true, scanArray,
      skipWhitespace_cons rest (show ('{' : Char).isWhitespace = false from by decide)]
    rw [if_neg (by simp), failed]
    rfl
  | cons item items =>
    rw [dump_array_cons, List.cons_append, List.cons.injEq] at whole
    obtain ⟨rfl, whole⟩ := whole
    have heads := fun value (member : value ∈ item :: items) => (inside value member).starts
    obtain ⟨c, text, head, visible, notClosed, _⟩ := (inside item (by simp)).head
    obtain ⟨error, failed⟩ := scanSeparated_torn resumes (.inl rfl) (scanOnce room)
      (fun found item => found ++ [item]) dump item heads
      (fun value member => scanOnce_dump (inside value member)) blocked [] (before ++ torn).length cut whole
    rw [head, List.cons_append] at whole
    have kept := skipWhitespace_torn resumes whole ⟨c, _, rfl, visible⟩
    have notEmpty := head?_torn resumes (.inl rfl) notClosed whole
    refine ⟨error, ?_⟩
    simp only [List.cons_append, scanOnce, scanValue, Char.reduceEq, if_false, if_true, scanArray, kept]
    rw [if_neg notEmpty, failed]
    rfl

/-- A mapping that is cut short before such a text cannot be read, if its values are blocked. -/
theorem scanOnce_object_torn (resumes : Resumes torn) {room : Nat} {members : List (String × Json F)}
    (inside : ∀ entry ∈ members, Printable room entry.2)
    (blocked : ∀ entry ∈ members, ∀ before more, before ++ more = dump entry.2 →
      Blocked (scanOnce room (before ++ torn) : Except LoadsError (Json F × List Char)))
    {before more : List Char} (some : before ≠ []) (cut : more ≠ [])
    (whole : before ++ more = dump (.object members)) :
    ∃ error, (scanOnce (room + 1) (before ++ torn) : Except LoadsError (Json F × List Char)) =
      .error error := by
  obtain ⟨c, before, rfl⟩ := List.exists_cons_of_ne_nil some
  cases members with
  | nil =>
    rw [dump, List.cons_append, List.cons.injEq] at whole
    obtain ⟨rfl, whole⟩ := whole
    rw [eq_nil_of_cut_singleton cut whole, List.singleton_append]
    obtain ⟨rest, rfl⟩ := resumes.head
    -- A brace is no key.
    obtain ⟨error, failed⟩ : ∃ error, scanSeparated '}' (scanMember (scanOnce room : Scanner (Json F)))
        (fun (found : Dict String (Json F)) entry => found.set entry.1 entry.2) ('{' :: rest).length
        Dict.empty ('{' :: rest) = .error error :=
      scanSeparated_blocked (.inr rfl) (.of_error ⟨_, rfl⟩)
    refine ⟨error, ?_⟩
    simp only [scanOnce, scanValue, Char.reduceEq, if_false, if_true, scanObject,
      skipWhitespace_cons rest (show ('{' : Char).isWhitespace = false from by decide)]
    rw [if_neg (by simp), failed]
    rfl
  | cons entry members =>
    rw [dump_object_cons, List.cons_append, List.cons.injEq] at whole
    obtain ⟨rfl, whole⟩ := whole
    obtain ⟨error, failed⟩ := scanSeparated_torn resumes (.inr rfl) (scanMember (scanOnce room))
      (fun (found : Dict String (Json F)) entry => found.set entry.1 entry.2)
      dumpMember entry (fun value _ => ⟨'"', _, dumpMember_eq value, by decide⟩)
      (fun value member => scanMember_dump (inside value member)
        (scanOnce_dump (inside value member)))
      (fun value member before more => scanMember_torn resumes (inside value member) (blocked value member))
      .empty (before ++ torn).length cut whole
    rw [dumpMember_eq, List.cons_append] at whole
    have kept := skipWhitespace_torn resumes whole ⟨'"', _, rfl, by decide⟩
    have notEmpty := head?_torn resumes (.inr rfl) (show ('"' : Char) ≠ '}' by decide) whole
    refine ⟨error, ?_⟩
    simp only [List.cons_append, scanOnce, scanValue, Char.reduceEq, if_false, if_true, scanObject, kept]
    rw [if_neg notEmpty, failed]
    rfl

/-- Plain characters that are cut short before such a text are not read to a separator. -/
theorem scanOnce_plain_torn (resumes : Resumes torn) {room : Nat}
    (alone : Blocked (scanOnce room torn : Except LoadsError (Json F × List Char))) {before : List Char}
    (plain : ∀ c ∈ before, plainChar c = true) :
    Blocked (scanOnce room (before ++ torn) : Except LoadsError (Json F × List Char)) := by
  -- Either nothing is left before the text, or an atom starts with what is left.
  rcases before with _ | ⟨c, before⟩
  · exact alone
  · obtain ⟨rest, rfl⟩ := resumes.head
    rw [List.cons_append, scanOnce_atom (plain c (by simp)), ← List.cons_append]
    exact scanAtom_torn plain

/-- A value that is cut short before such a text, or stands whole before it, is not read to a separator. -/
theorem scanOnce_torn (resumes : Resumes torn)
    (alone : ∀ room, Blocked (scanOnce room torn : Except LoadsError (Json F × List Char))) {room : Nat}
    {value : Json F} (printable : Printable room value) :
    ∀ before more, before ++ more = dump value →
      Blocked (scanOnce room (before ++ torn) : Except LoadsError (Json F × List Char)) := by
  -- A whole value leaves over the text behind it.
  have after : ∀ {room : Nat} {value : Json F} {text : List Char},
      (∀ rest, scanOnce room (text ++ rest) = .ok (value, rest)) →
      Blocked (scanOnce room (text ++ torn) : Except LoadsError (Json F × List Char)) := by
    intro room value text read other rest same c first
    cases (read torn).symm.trans same
    obtain ⟨rest, rfl⟩ := resumes.head
    exact .inl (Option.some.inj first).symm
  induction printable with
  | null =>
    intro before more whole
    exact scanOnce_plain_torn resumes (alone _) fun c member =>
      (by simp [dump]; decide : ∀ c ∈ dump (.null : Json F), plainChar c = true) c
        (whole ▸ List.mem_append_left more member)
  | bool value =>
    intro before more whole
    exact scanOnce_plain_torn resumes (alone _) fun c member =>
      (by cases value <;> simp [dump] <;> decide : ∀ c ∈ dump (.bool value : Json F), plainChar c = true) c
        (whole ▸ List.mem_append_left more member)
  | float value =>
    intro before more whole
    exact scanOnce_plain_torn resumes (alone _) fun c member =>
      (by simpa [dump] using FloatRepr.repr_plain value :
        ∀ c ∈ dump (.float value : Json F), plainChar c = true) c (whole ▸ List.mem_append_left more member)
  | str value =>
    intro before more whole
    rw [dump, dumpString] at whole
    rcases before with _ | ⟨c, before⟩
    · exact alone _
    rw [List.cons_append, List.cons.injEq] at whole
    obtain ⟨rfl, whole⟩ := whole
    rw [List.cons_append, scanOnce_string]
    by_cases complete : more = []
    · -- The whole string is read, and the brace behind it is left over.
      rw [complete, List.append_nil] at whole
      have read := scanString_dump value torn
      rw [whole, List.append_assoc, List.singleton_append, read]
      obtain ⟨rest, rfl⟩ := resumes.head
      intro other left same c first
      cases same
      exact .inl (Option.some.inj first).symm
    · exact (scanString_torn resumes complete whole).map _
  | array inside ih =>
    intro before more whole
    by_cases nothing : before = []
    · rw [nothing]
      exact alone _
    by_cases complete : more = []
    · rw [complete, List.append_nil] at whole
      rw [whole]
      exact after (scanOnce_array_dump inside fun item member => scanOnce_dump (inside item member))
    · exact .of_error (scanOnce_array_torn resumes (alone _) inside ih nothing complete whole)
  | object distinct inside ih =>
    intro before more whole
    by_cases nothing : before = []
    · rw [nothing]
      exact alone _
    by_cases complete : more = []
    · rw [complete, List.append_nil] at whole
      rw [whole]
      exact after (scanOnce_object_dump distinct (fun entry member => (inside entry member).starts)
        fun entry member => scanOnce_dump (inside entry member))
    · exact .of_error (scanOnce_object_torn resumes inside ih nothing complete whole)

end Containers

/-! ### Rows -/

section Rows

variable {F : Type} [FloatRepr F]

/-- Mappings within some depth of containers whose first key begins with a plain character. -/
structure Row (depth : Nat) (members : List (String × Json F)) : Prop where
  /-- The mapping is printable. -/
  printable : ∀ room, Printable (room + depth) (.object members)
  /-- Its text begins with the brace, the quote, and the character. -/
  head : ∃ c rest, dump (.object members) = '{' :: '"' :: c :: rest ∧ plainChar c = true

/-- Plain characters are written as they are. -/
theorem escapeChar_plain {c : Char} (plain : plainChar c = true) : escapeChar c = [c] := by
  obtain ⟨low, high⟩ := visible_of_plainChar plain
  -- No plain character has an escape of its own.
  have apart : c ≠ '"' ∧ c ≠ '\\' ∧ c ≠ '\n' ∧ c ≠ '\r' ∧ c ≠ '\t' ∧ c ≠ '\x0c' ∧ c ≠ '\x08' := by
    refine ⟨?_, ?_, ?_, ?_, ?_, ?_, ?_⟩ <;>
      · rintro rfl
        exact absurd plain (by decide)
  obtain ⟨quote, backslash, newline, carriage, tab, feed, back⟩ := apart
  simp [escapeChar, quote, backslash, newline, carriage, tab, feed, back, low, high]

/-- The text of a mapping begins with its first key. -/
theorem Row.of_key {key : String} {value : Json F} {members : List (String × Json F)} {depth : Nat}
    {c : Char} {chars : List Char} (first : key.toList = c :: chars) (plain : plainChar c = true)
    (printable : ∀ room, Printable (room + depth) (.object ((key, value) :: members))) :
    Row depth ((key, value) :: members) := by
  -- The first character of the first key stands after the brace and the quote.
  refine ⟨printable, c, chars.flatMap escapeChar ++ '"' :: ':' :: dump value ++ separated '}' dumpMember members,
    ?_, plain⟩
  rw [dump_object_cons, dumpMember_eq, first, List.flatMap_cons, escapeChar_plain plain]
  simp

/-- Something is left of a row that was written, perhaps not all of it. -/
structure Piece (depth : Nat) (members : List (String × Json F)) (before : List Char) : Prop where
  /-- The row. -/
  row : Row depth members
  /-- Something is left. -/
  some : before ≠ []
  /-- It is where the row begins. -/
  start : before <+: dump (.object members)

variable {depth : Nat} {members : List (String × Json F)} {before torn : List Char}

/-- A piece of a row begins as rows do, whether pieces of other rows are behind it or nothing. -/
theorem Piece.resumes (piece : Piece depth members before) (behind : torn = [] ∨ Resumes torn) :
    Resumes (before ++ torn) := by
  -- The row may be cut behind the brace, behind the quote, or anywhere in the key.
  obtain ⟨more, whole⟩ := piece.start
  obtain ⟨c, rest, head, plain⟩ := piece.row.head
  rw [head] at whole
  rcases before with _ | ⟨a, _ | ⟨b, _ | ⟨d, before⟩⟩⟩
  · exact absurd rfl piece.some
  · obtain ⟨rfl, _⟩ := List.cons.inj whole
    rcases behind with rfl | resumes
    · exact .last
    · exact .again resumes
  · simp only [List.cons_append, List.nil_append, List.cons.injEq] at whole
    obtain ⟨rfl, rfl, _⟩ := whole
    refine .key fun e first => ?_
    rcases behind with rfl | resumes
    · simp at first
    · obtain ⟨rest, rfl⟩ := resumes.head
      exact .inl (Option.some.inj first).symm
  · simp only [List.cons_append, List.cons.injEq] at whole
    obtain ⟨rfl, rfl, rfl, _⟩ := whole
    refine .key fun e first => .inr ?_
    rw [← Option.some.inj first]
    exact plain

/-- A piece of a row is not read to a separator, and no whole document, unless it is the whole row and
nothing is behind it. -/
theorem Piece.scan (piece : Piece depth members before)
    (behind : torn = [] ∨ Resumes torn ∧
      ∀ room, Blocked (scanOnce room torn : Except LoadsError (Json F × List Char))) (room : Nat) :
    Blocked (scanOnce room (before ++ torn) : Except LoadsError (Json F × List Char)) ∧
      ((torn = [] → before ≠ dump (.object members)) → ∀ value : Json F,
        scanOnce room (before ++ torn) ≠ .ok (value, [])) := by
  obtain ⟨more, whole⟩ := piece.start
  have printable := piece.row.printable room
  -- With enough room the text is read as it would be with less.
  suffices deep : Blocked (scanOnce (room + depth) (before ++ torn) :
      Except LoadsError (Json F × List Char)) ∧
      ((torn = [] → before ≠ dump (.object members)) → ∀ value : Json F,
        scanOnce (room + depth) (before ++ torn) ≠ .ok (value, [])) by
    have deepens : Deepens (scanOnce room : Scanner (Json F)) _ := scanOnce_deepens room depth
    refine ⟨.shallow (deepens _) deep.1, fun differs value read => ?_⟩
    rcases deepens (before ++ torn) with failed | same
    · rw [failed] at read
      cases read
    · exact deep.2 differs value (same.symm.trans read)
  rcases behind with rfl | ⟨resumes, blocked⟩
  · rw [List.append_nil]
    by_cases complete : more = []
    · -- The whole row is read, and nothing is left over.
      rw [complete, List.append_nil] at whole
      have read := scanOnce_dump printable [] (by simp [Ends])
      rw [List.append_nil] at read
      refine ⟨fun value rest same c first => ?_, fun differs => absurd whole (differs rfl)⟩
      rw [whole] at same
      cases read.symm.trans same
      simp at first
    · obtain ⟨error, failed⟩ := (scanOnce_cut printable before more complete whole).2 rfl
      exact ⟨.of_error ⟨error, failed⟩, fun _ value read => by simp [failed] at read⟩
  · refine ⟨scanOnce_torn resumes blocked printable before more whole, fun _ value read => ?_⟩
    generalize room + depth = deep at printable read
    cases printable with
    | object distinct inside =>
      by_cases complete : more = []
      · -- What is behind the row is left over.
        rw [complete, List.append_nil] at whole
        rw [whole, scanOnce_object_dump distinct (fun entry member => (inside entry member).starts)
          fun entry member => scanOnce_dump (inside entry member)] at read
        cases read
        cases resumes
      · obtain ⟨error, failed⟩ := scanOnce_object_torn resumes inside
          (fun entry member => scanOnce_torn resumes blocked (inside entry member)) piece.some complete whole
        rw [failed] at read
        cases read

/-- Pieces of rows behind one another begin as rows do, and are not read to a separator. -/
theorem blocked_pieces {pieces : List (List Char)}
    (parts : ∀ before ∈ pieces, ∃ members : List (String × Json F), Piece depth members before) :
    pieces.flatten = [] ∨ Resumes pieces.flatten ∧
      ∀ room, Blocked (scanOnce room pieces.flatten : Except LoadsError (Json F × List Char)) := by
  -- The induction goes from the last piece to the first.
  induction pieces with
  | nil => exact .inl rfl
  | cons before pieces ih =>
    obtain ⟨members, piece⟩ := parts before (List.mem_cons_self ..)
    have behind := ih fun other member => parts other (List.mem_cons_of_mem _ member)
    rw [List.flatten_cons]
    exact .inr ⟨piece.resumes (behind.imp_right And.left), fun room => (piece.scan behind room).1⟩

/-- Pieces of rows behind one another are no document, unless it is one whole row. -/
theorem loads_pieces {pieces : List (List Char)}
    (parts : ∀ before ∈ pieces, ∃ members : List (String × Json F), Piece depth members before)
    (torn : ∀ members : List (String × Json F), Row depth members → pieces ≠ [dump (.object members)])
    (room : Nat) : ∃ error, (loads room pieces.flatten : Except LoadsError (Json F)) = .error error := by
  cases pieces with
  | nil => exact ⟨.jsonDecodeError, by cases room <;> rfl⟩
  | cons before pieces =>
    obtain ⟨members, piece⟩ := parts before (List.mem_cons_self ..)
    have behind := blocked_pieces fun other member => parts other (List.mem_cons_of_mem _ member)
    obtain ⟨rest, brace⟩ := (piece.resumes (behind.imp_right And.left)).head
    obtain ⟨blocked, incomplete⟩ := piece.scan behind room
    have shown : ('{' : Char).isWhitespace = false := by decide
    rw [List.flatten_cons, loads, brace, if_neg (by simp), skipWhitespace_cons rest shown, ← brace]
    cases read : (scanOnce room (before ++ pieces.flatten) :
        Except LoadsError (Json F × List Char)) with
    | error error => exact ⟨error, rfl⟩
    | ok found =>
      -- Something visible is left over.
      obtain ⟨value, _ | ⟨c, left⟩⟩ := found
      · refine absurd read (incomplete (fun nothing whole => torn members piece.row ?_) value)
        have alone : pieces = [] := by
          rcases pieces with _ | ⟨next, pieces⟩
          · rfl
          · obtain ⟨_, other⟩ := parts next (by simp)
            exact absurd (List.append_eq_nil_iff.mp nothing).1 other.some
        rw [alone, whole]
      · obtain ⟨visible, _⟩ := (blocked value (c :: left) read c rfl).apart
        exact ⟨.jsonDecodeError, by simp [Bind.bind, Except.bind, skipWhitespace_cons _ visible]⟩

end Rows

end Absm
