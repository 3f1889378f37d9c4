import Absm.Proofs.Foundation.JsonText

/-! A written document that is cut short at any place cannot be read. -/

namespace Absm

variable {F : Type} [FloatRepr F]

/-- The digits of an integer are followed by a suffix of the text. -/
theorem integerPart_suffix {text digits rest : List Char}
    (found : integerPart text = some (digits, rest)) : rest <:+ text := by
  -- Either one zero is taken, or a whole run of digits.
  rcases text with _ | ⟨c, text⟩
  · simp [integerPart] at found
  · simp only [integerPart] at found
    split at found
    · cases found
      exact List.suffix_cons c rest
    · split at found
      · cases found
        exact (List.dropWhile_suffix _).trans (List.suffix_cons c text)
      · cases found

/-- A fraction, present or not, is followed by a suffix of the text. -/
theorem fractionPart_suffix (text : List Char) : (fractionPart text).2 <:+ text := by
  -- The point is given back unless a digit follows it.
  unfold fractionPart
  split
  · rename_i rest
    split
    · exact List.suffix_refl _
    · exact (List.dropWhile_suffix _).trans (List.suffix_cons _ _)
  · exact List.suffix_refl _

/-- A sign, present or not, is followed by a suffix of the text. -/
theorem signPart_suffix (text : List Char) : (signPart text).2 <:+ text := by
  -- At most the sign is taken away.
  unfold signPart
  split
  · exact List.suffix_cons _ _
  · exact List.suffix_cons _ _
  · exact List.suffix_refl _

/-- An exponent, present or not, is followed by a suffix of the text. -/
theorem exponentPart_suffix (text : List Char) : (exponentPart text).2 <:+ text := by
  -- The marker is given back unless digits follow it, perhaps behind a sign.
  unfold exponentPart
  split
  · rename_i c rest
    split
    · dsimp only
      split
      · exact List.suffix_refl _
      · exact (List.dropWhile_suffix _).trans ((signPart_suffix rest).trans (List.suffix_cons c rest))
    · exact List.suffix_refl _
  · exact List.suffix_refl _

/-- A number is followed by a suffix of the text. -/
theorem scanNumber_suffix {text rest : List Char} {value : Json F}
    (read : scanNumber text = .ok (value, rest)) : rest <:+ text := by
  -- The parts of a number are scanned one behind the other.
  unfold scanNumber at read
  dsimp only at read
  split at read
  · cases read
  · rename_i digits after found
    have whole : after <:+ text := by
      have body := integerPart_suffix found
      split at body
      · exact body.trans (List.tail_suffix text)
      · exact body
    have parts := (exponentPart_suffix (fractionPart after).2).trans
      ((fractionPart_suffix after).trans whole)
    split at read
    · split at read
      · cases read
      · cases read
        exact parts
    · cases read
      exact parts

/-- A constant or a number is followed by a suffix of the text. -/
theorem scanAtom_suffix {text rest : List Char} {value : Json F}
    (read : scanAtom text = .ok (value, rest)) : rest <:+ text := by
  -- A constant is dropped as a whole, and a number is scanned.
  unfold scanAtom at read
  split at read
  · cases read
    exact List.drop_suffix _ _
  · exact scanNumber_suffix read

/-- A scan that fails, or leaves over only what no container accepts behind a value. -/
def Stuck {α : Type} (result : Except LoadsError (α × List Char)) : Prop :=
  -- What is left could still belong to a number or a word.
  ∀ value rest, result = .ok (value, rest) → ∀ c ∈ rest, plainChar c = true

/-- A failing scan is stuck. -/
theorem Stuck.of_error {α : Type} {result : Except LoadsError (α × List Char)}
    (failed : ∃ error, result = .error error) : Stuck result := by
  -- Nothing was read.
  obtain ⟨error, rfl⟩ := failed
  intro value rest read
  cases read

/-- Scanning part of a plain text never reaches a separator. -/
theorem stuck_of_plain {room : Nat} {text : List Char} (plain : ∀ c ∈ text, plainChar c = true) :
    Stuck (scanOnce room text : Except LoadsError (Json F × List Char)) := by
  -- What is left over is a suffix of the plain text.
  intro value rest read c member
  rcases text with _ | ⟨head, text⟩
  · cases room <;> simp [scanOnce, scanValue] at read
  · rw [scanOnce_atom (plain head (by simp))] at read
    exact plain c ((scanAtom_suffix read).subset member)

/-- A part whose scan is stuck ends the reading of all parts with an error. -/
theorem scanSeparated_stuck {α β : Type} {close : Char} (closing : close = ']' ∨ close = '}')
    {scan : Scanner α} {add : β → α → β} {budget : Nat} {sofar : β} {text : List Char}
    (stuck : Stuck (scan text)) :
    ∃ error, scanSeparated close scan add budget sofar text = .error error := by
  -- Behind the part there is nothing, or a character that is neither comma nor bracket.
  cases budget with
  | zero => exact ⟨_, rfl⟩
  | succ budget =>
    cases read : scan text with
    | error error => exact ⟨error, by simp [scanSeparated, read, Bind.bind, Except.bind]⟩
    | ok found =>
      rcases found with ⟨part, rest⟩
      refine ⟨.jsonDecodeError, ?_⟩
      rcases rest with _ | ⟨c, rest⟩
      · simp [scanSeparated, read, Bind.bind, Except.bind]
      · have plain := stuck part (c :: rest) read c (by simp)
        have notComma : c ≠ ',' := by rintro rfl; exact absurd plain (by decide)
        have notClose : c ≠ close := by
          rintro rfl
          rcases closing with rfl | rfl <;> exact absurd plain (by decide)
        simp [scanSeparated, read, Bind.bind, Except.bind,
          skipWhitespace_cons _ (plainChar_visible plain), notComma, notClose]

/-- A scan that uses up its whole text is stuck, as nothing is left to close a container. -/
theorem Stuck.of_complete {α : Type} {result : Except LoadsError (α × List Char)} {value : α}
    (read : result = .ok (value, [])) : Stuck result := by
  -- The only rest is the empty one.
  intro other rest same
  rw [read] at same
  cases same
  simp

/-- The start of a text with a visible first character is not shortened. -/
theorem skipWhitespace_cut {before more whole : List Char} (parts : before ++ more = whole)
    (visible : ∃ c rest, whole = c :: rest ∧ c.isWhitespace = false) :
    skipWhitespace before = before := by
  -- The start is empty or shares the first character.
  obtain ⟨c, rest, rfl, shown⟩ := visible
  rcases before with _ | ⟨head, before⟩
  · rfl
  · rw [List.cons_append, List.cons.injEq] at parts
    rw [parts.1, skipWhitespace_cons _ shown]

/-- Every start of a text is stuck if the text is and so are its proper starts. -/
theorem Stuck.of_start {α : Type} {scan : Scanner α} {text before missing : List Char}
    (alone : Stuck (scan text))
    (stuck : ∀ before more, more ≠ [] → before ++ more = text → Stuck (scan before))
    (start : before ++ missing = text) : Stuck (scan before) := by
  -- A start that lacks nothing is the text itself.
  by_cases complete : missing = []
  · rw [complete, List.append_nil] at start
    exact start ▸ alone
  · exact stuck before missing complete start

/-- Parts behind commas that are cut short before the closing bracket cannot be read. -/
theorem scanSeparated_cut {α β : Type} {close : Char} (closing : close = ']' ∨ close = '}')
    (scan : Scanner α) (add : β → α → β) (text : α → List Char) {parts : List α} (part : α)
    (visible : ∀ p ∈ part :: parts, ∃ c rest, text p = c :: rest ∧ c.isWhitespace = false)
    (reads : ∀ p ∈ part :: parts, ∀ rest, Ends rest → scan (text p ++ rest) = .ok (p, rest))
    (stuck : ∀ p ∈ part :: parts, ∀ before more, more ≠ [] → before ++ more = text p →
      Stuck (scan before))
    (sofar : β) (budget : Nat) {before more : List Char} (cut : more ≠ [])
    (whole : before ++ more = text part ++ separated close text parts) :
    ∃ error, scanSeparated close scan add budget sofar before = .error error := by
  -- The cut falls into the first part, right behind it, or into the parts that follow.
  have alone : Stuck (scan (text part)) := by
    have read := reads part (by simp) [] (by simp [Ends])
    rw [List.append_nil] at read
    exact .of_complete read
  induction parts generalizing part sofar budget before with
  | nil =>
    apply scanSeparated_stuck closing
    rcases List.append_eq_append_iff.mp whole with ⟨missing, first, _⟩ | ⟨extra, first, second⟩
    · exact alone.of_start (stuck part (by simp)) first.symm
    · have nothing : extra = [] := by
        rcases extra with _ | ⟨c, extra⟩
        · rfl
        · simp only [separated, List.flatMap_nil, List.nil_append, List.cons_append, List.cons.injEq]
            at second
          exact False.elim (cut (List.append_eq_nil_iff.mp second.2.symm).2)
      rw [nothing, List.append_nil] at first
      exact first ▸ alone
  | cons next parts ih =>
    rcases List.append_eq_append_iff.mp whole with ⟨missing, first, _⟩ | ⟨extra, first, second⟩
    · exact scanSeparated_stuck closing (alone.of_start (stuck part (by simp)) first.symm)
    · rcases extra with _ | ⟨c, extra⟩
      · rw [List.append_nil] at first
        exact scanSeparated_stuck closing (first ▸ alone)
      · -- The comma is there, so the error comes from the parts behind it.
        have rest : extra ++ more = text next ++ separated close text parts ∧ c = ',' := by
          simp only [separated, List.flatMap_cons, List.cons_append, List.append_assoc,
            List.cons.injEq] at second
          exact ⟨by simp [separated, second.2], second.1.symm⟩
        obtain ⟨rest, rfl⟩ := rest
        have read := reads part (by simp) (',' :: extra) (by simp [Ends])
        have different : (',' : Char) ≠ close := by rcases closing with rfl | rfl <;> decide
        have nextRead := reads next (by simp) [] (by simp [Ends])
        obtain ⟨c, tail, head, shown⟩ := visible next (by simp)
        have kept := skipWhitespace_cut rest ⟨c, tail ++ separated close text parts,
          by rw [head, List.cons_append], shown⟩
        rw [List.append_nil] at nextRead
        cases budget with
        | zero => exact ⟨_, rfl⟩
        | succ budget =>
          obtain ⟨error, failed⟩ := ih next
            (fun p member => visible p (List.mem_cons_of_mem _ member))
            (fun p member => reads p (List.mem_cons_of_mem _ member))
            (fun p member => stuck p (List.mem_cons_of_mem _ member)) (add sofar part) budget rest
            (.of_complete nextRead)
          exact ⟨error, by
            simp [scanSeparated, first, read, Bind.bind, Except.bind, different, kept, failed,
              show (',' : Char).isWhitespace = false from by decide]⟩

/-- A key and its value that are cut short are not read to a separator. -/
theorem scanMember_cut {scan : Scanner (Json F)} {entry : String × Json F} {room : Nat}
    (printable : Printable room entry.2)
    (stuck : ∀ before more, more ≠ [] → before ++ more = dump entry.2 → Stuck (scan before))
    {before more : List Char} (cut : more ≠ []) (whole : before ++ more = dumpMember entry) :
    Stuck (scanMember scan before) := by
  -- The cut falls into the key, between key and colon, or into the value.
  rw [dumpMember_eq] at whole
  rcases before with _ | ⟨c, before⟩
  · exact .of_error ⟨_, rfl⟩
  · rw [List.cons_append, List.cons.injEq] at whole
    obtain ⟨rfl, whole⟩ := whole
    have key : before ++ more =
        (entry.1.toList.flatMap escapeChar ++ ['"']) ++ ':' :: dump entry.2 := by simp [whole]
    rcases List.append_eq_append_iff.mp key with ⟨missing, first, _⟩ | ⟨extra, first, second⟩
    · apply Stuck.of_error
      by_cases complete : missing = []
      · rw [complete, List.append_nil] at first
        have read := scanString_dump entry.1 []
        exact ⟨.jsonDecodeError, by
          simp [scanMember, ← first, read, Bind.bind, Except.bind]⟩
      · obtain ⟨error, failed⟩ := scanString_cut complete first.symm
        exact ⟨error, by simp [scanMember, failed, Bind.bind, Except.bind]⟩
    · have read := scanString_dump entry.1 extra
      have text : before = entry.1.toList.flatMap escapeChar ++ '"' :: extra := by simp [first]
      rcases extra with _ | ⟨c, extra⟩
      · exact .of_error ⟨.jsonDecodeError, by
          simp [scanMember, text, read, Bind.bind, Except.bind]⟩
      · rw [List.cons_append, List.cons.injEq] at second
        obtain ⟨rfl, second⟩ := second
        obtain ⟨c, tail, head, shown, _⟩ := printable.head
        have kept := skipWhitespace_cut second.symm ⟨c, tail, head, shown⟩
        have inner := stuck extra more cut second.symm
        intro value rest found
        simp only [scanMember, if_true, text, read, Bind.bind, Except.bind,
          skipWhitespace_cons _ (show (':' : Char).isWhitespace = false from by decide), kept]
          at found
        cases scanned : scan extra with
        | error error => simp [scanned] at found
        | ok result =>
          simp only [scanned, Except.ok.injEq, Prod.mk.injEq] at found
          rw [← found.2]
          exact inner result.1 result.2 scanned

/-- Containers are the values whose text ends with a bracket of their own. -/
def Json.isContainer : Json F → Bool
  | .array _ => true
  | .object _ => true
  | _ => false

/-- Part of a value that is written with plain characters is not read to a separator. -/
theorem stuck_of_plain_dump {room : Nat} {value : Json F}
    (plain : ∀ c ∈ dump value, plainChar c = true) {before more : List Char}
    (whole : before ++ more = dump value) :
    Stuck (scanOnce room before : Except LoadsError (Json F × List Char)) :=
  -- The part has no other characters than the whole.
  stuck_of_plain fun c member => plain c (whole ▸ List.mem_append_left more member)

/-- Cutting the last character off leaves nothing of what is one character long. -/
theorem eq_nil_of_cut_singleton {c : Char} {before more : List Char} (cut : more ≠ [])
    (whole : before ++ more = [c]) : before = [] := by
  -- A first character would be the only one, and nothing could be cut off.
  rcases before with _ | ⟨d, before⟩
  · rfl
  · simp only [List.cons_append, List.cons.injEq, List.append_eq_nil_iff] at whole
    exact absurd whole.2.2 cut

/-- The start of a text does not start with a character that the text does not start with. -/
theorem head?_cut {c close : Char} {text before more : List Char} (differs : c ≠ close)
    (whole : before ++ more = c :: text) : before.head? ≠ some close := by
  -- The start is empty or shares the first character.
  rcases before with _ | ⟨d, before⟩
  · simp
  · rw [List.cons_append, List.cons.injEq] at whole
    simpa [whole.1] using differs

/-- A string that is cut short cannot be read. -/
theorem scanOnce_string_cut {room : Nat} {value : String} {before more : List Char}
    (cut : more ≠ []) (whole : before ++ more = dumpString value) :
    ∃ error, (scanOnce room before : Except LoadsError (Json F × List Char)) = .error error := by
  -- If the opening quote is there, then the closing one is not.
  rw [dumpString] at whole
  rcases before with _ | ⟨c, before⟩
  · exact ⟨.jsonDecodeError, by cases room <;> rfl⟩
  · rw [List.cons_append, List.cons.injEq] at whole
    obtain ⟨rfl, whole⟩ := whole
    obtain ⟨error, failed⟩ := scanString_cut cut whole
    exact ⟨error, by rw [scanOnce_string, failed]; rfl⟩

/-- A list that is cut short cannot be read, if its items are stuck when they are cut short. -/
theorem scanOnce_array_cut {room : Nat} {items : List (Json F)}
    (inside : ∀ item ∈ items, Printable room item)
    (stuck : ∀ item ∈ items, ∀ before more, more ≠ [] → before ++ more = dump item →
      Stuck (scanOnce room before : Except LoadsError (Json F × List Char)))
    {before more : List Char} (cut : more ≠ []) (whole : before ++ more = dump (.array items)) :
    ∃ error, (scanOnce (room + 1) before : Except LoadsError (Json F × List Char)) =
      .error error := by
  -- Behind the opening bracket there is nothing, or the items lack something.
  rcases before with _ | ⟨c, before⟩
  · exact ⟨_, rfl⟩
  cases items with
  | nil =>
    rw [dump, List.cons_append, List.cons.injEq] at whole
    obtain ⟨rfl, whole⟩ := whole
    exact ⟨.jsonDecodeError, by simp [eq_nil_of_cut_singleton cut whole, scanOnce, scanValue,
      scanArray, scanSeparated, Except.map]⟩
  | cons item items =>
    rw [dump_array_cons, List.cons_append, List.cons.injEq] at whole
    obtain ⟨rfl, whole⟩ := whole
    have heads (value : Json F) (member : value ∈ item :: items) :
        ∃ c text, dump value = c :: text ∧ c.isWhitespace = false := by
      obtain ⟨c, text, head, visible, _⟩ := (inside value member).head
      exact ⟨c, text, head, visible⟩
    obtain ⟨c, text, head, visible, notClosed, _⟩ := (inside item (by simp)).head
    obtain ⟨error, failed⟩ := scanSeparated_cut (.inl rfl) (scanOnce room)
      (fun found item => found ++ [item]) dump item heads
      (fun value member => scanOnce_dump (inside value member)) stuck [] before.length cut whole
    rw [head, List.cons_append] at whole
    have kept := skipWhitespace_cut whole ⟨c, _, rfl, visible⟩
    have notEmpty := head?_cut notClosed whole
    exact ⟨error, by simp [scanOnce, scanValue, scanArray, kept, notEmpty, failed, Except.map]⟩

/-- A mapping that is cut short cannot be read, if its values are stuck when they are cut short. -/
theorem scanOnce_object_cut {room : Nat} {members : List (String × Json F)}
    (inside : ∀ entry ∈ members, Printable room entry.2)
    (stuck : ∀ entry ∈ members, ∀ before more, more ≠ [] → before ++ more = dump entry.2 →
      Stuck (scanOnce room before : Except LoadsError (Json F × List Char)))
    {before more : List Char} (cut : more ≠ []) (whole : before ++ more = dump (.object members)) :
    ∃ error, (scanOnce (room + 1) before : Except LoadsError (Json F × List Char)) =
      .error error := by
  -- Behind the opening brace there is nothing, or the members lack something.
  rcases before with _ | ⟨c, before⟩
  · exact ⟨_, rfl⟩
  cases members with
  | nil =>
    rw [dump, List.cons_append, List.cons.injEq] at whole
    obtain ⟨rfl, whole⟩ := whole
    exact ⟨.jsonDecodeError, by simp [eq_nil_of_cut_singleton cut whole, scanOnce, scanValue,
      scanObject, scanSeparated, Except.map]⟩
  | cons entry members =>
    rw [dump_object_cons, List.cons_append, List.cons.injEq] at whole
    obtain ⟨rfl, whole⟩ := whole
    obtain ⟨error, failed⟩ := scanSeparated_cut (.inr rfl) (scanMember (scanOnce room))
      (fun (found : Dict String (Json F)) entry => found.set entry.1 entry.2)
      dumpMember entry (fun value _ => ⟨'"', _, dumpMember_eq value, by decide⟩)
      (fun value member => scanMember_dump (inside value member)
        (scanOnce_dump (inside value member)))
      (fun value member before more => scanMember_cut (inside value member) (stuck value member))
      .empty before.length cut whole
    rw [dumpMember_eq, List.cons_append] at whole
    have kept := skipWhitespace_cut whole ⟨'"', _, rfl, by decide⟩
    have notEmpty := head?_cut (show ('"' : Char) ≠ '}' by decide) whole
    exact ⟨error, by simp [scanOnce, scanValue, scanObject, kept, notEmpty, failed, Except.map]⟩

/-- The text of a value that is cut short is not read to a separator, and not at all for a
container. -/
theorem scanOnce_cut {room : Nat} {value : Json F} (printable : Printable room value) :
    ∀ before more, more ≠ [] → before ++ more = dump value →
      Stuck (scanOnce room before : Except LoadsError (Json F × List Char)) ∧
      (value.isContainer = true →
        ∃ error, (scanOnce room before : Except LoadsError (Json F × List Char)) = .error error) := by
  -- Constants and numbers are plain texts, strings lack their quote, containers their bracket.
  induction printable with
  | null =>
    intro before more _ whole
    exact ⟨stuck_of_plain_dump (by simp [dump]; decide) whole, by simp [Json.isContainer]⟩
  | bool value =>
    intro before more _ whole
    refine ⟨stuck_of_plain_dump ?_ whole, by simp [Json.isContainer]⟩
    cases value <;> simp [dump] <;> decide
  | float value =>
    intro before more _ whole
    refine ⟨stuck_of_plain_dump ?_ whole, by simp [Json.isContainer]⟩
    simpa [dump] using FloatRepr.repr_plain value
  | str value =>
    intro before more cut whole
    rw [dump] at whole
    exact ⟨.of_error (scanOnce_string_cut cut whole), by simp [Json.isContainer]⟩
  | array inside ih =>
    intro before more cut whole
    have failed := scanOnce_array_cut inside
      (fun item member before more cut whole => (ih item member before more cut whole).1) cut whole
    exact ⟨.of_error failed, fun _ => failed⟩
  | object distinct inside ih =>
    intro before more cut whole
    have failed := scanOnce_object_cut inside
      (fun entry member before more cut whole => (ih entry member before more cut whole).1) cut whole
    exact ⟨.of_error failed, fun _ => failed⟩

/-- A written container that is cut short cannot be loaded. -/
theorem loads_cut {room : Nat} {value : Json F} (printable : Printable room value)
    (container : value.isContainer = true) {before more : List Char} (cut : more ≠ [])
    (whole : before ++ more = dump value) :
    ∃ error, (loads room before : Except LoadsError (Json F)) = .error error := by
  -- Neither a mark nor whitespace stands at the front, so the scan of the value fails.
  obtain ⟨c, text, head, visible, _⟩ := printable.head
  obtain ⟨error, failed⟩ := (scanOnce_cut printable before more cut whole).2 container
  by_cases mark : before.head? = some '\uFEFF'
  · exact ⟨.jsonDecodeError, by simp [loads, mark]⟩
  · rw [loads, if_neg mark, skipWhitespace_cut whole ⟨c, text, head, visible⟩, failed]
    exact ⟨error, rfl⟩

end Absm
