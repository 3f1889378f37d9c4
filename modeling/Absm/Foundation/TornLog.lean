import Absm.Foundation.Lines

/-! Logs that are written line by line when some of the writes are cut short, and what is read of them. -/

namespace Absm

/-- How entries are written on lines, and how lines are read. -/
structure LineFormat (α β γ : Type) where
  /-- What stands on the line of an entry. -/
  text : β → List α
  /-- What ends the line. -/
  stop : α
  /-- Whether a reader takes something for the end of a line. -/
  isBreak : α → Bool
  /-- What is to be read of an entry. -/
  value : β → γ
  /-- What a reader makes of a line. -/
  parse : List α → Option γ
  /-- A reader sees the ends of lines. -/
  stop_isBreak : isBreak stop = true
  /-- No line ends inside the text of an entry. -/
  text_whole : ∀ entry, ∀ c ∈ text entry, isBreak c = false
  /-- A whole line is read. -/
  parse_text : ∀ entry, parse (text entry) = some (value entry)
  /-- No text is only the beginning of another one. -/
  text_prefix : ∀ first second, text first <+: text second → text first = text second
  /-- Beginnings of lines behind one another are not read, unless it is one whole line. -/
  parse_pieces : ∀ pieces : List (List α), (∀ piece ∈ pieces, piece ≠ [] ∧ ∃ entry, piece <+: text entry) →
    (∀ entry, pieces ≠ [text entry]) → parse pieces.flatten = none

/-- A write of an entry, of whose line some characters reach the file. -/
structure LogWrite (β : Type) where
  /-- The entry. -/
  entry : β
  /-- The number of characters that reach the file, if the line has as many. -/
  reached : Nat

namespace LineFormat

variable {α β γ : Type} (format : LineFormat α β γ)

/-- The line of an entry. -/
def line (entry : β) : List α :=
  -- The stop is the last part of the line.
  format.text entry ++ [format.stop]

/-- What reaches the file of a write. -/
def written (write : LogWrite β) : List α :=
  -- Only the first characters reach the file.
  (format.line write.entry).take write.reached

/-- What a file holds after some writes. -/
def file (writes : List (LogWrite β)) : List α :=
  -- Writes follow each other without anything in between.
  writes.flatMap format.written

/-- The values that are read from a file, leaving out the lines that cannot be read. -/
def read (file : List α) : List γ :=
  -- Lines that cannot be parsed are skipped.
  (linesOf format.isBreak file).filterMap format.parse

/-- The whole line reaches the file. -/
def Complete (write : LogWrite β) : Prop :=
  -- The stop has reached the file, too.
  (format.text write.entry).length < write.reached

instance : DecidablePred format.Complete := fun _ => inferInstanceAs (Decidable (_ < _))

/-- Some of the line reaches the file, but not all of it. -/
def Torn (write : LogWrite β) : Prop :=
  -- Something has reached the file, but not the stop.
  0 < write.reached ∧ ¬ format.Complete write

instance : DecidablePred format.Torn := fun _ => inferInstanceAs (Decidable (_ ∧ _))

/-- The values whose writes are not lost, told whether the line that is written next is already begun: a
whole line that stands alone, or all but its end if nothing follows. -/
def kept : Bool → List (LogWrite β) → List γ
  -- The flag says whether the last line has been begun and not ended.
  | _, [] => []
  | begun, write :: later =>
    if write.reached = 0 then kept begun later
    else if format.Complete write then
      (if begun then [] else [format.value write.entry]) ++ kept false later
    else
      (if begun = false ∧ write.reached = (format.text write.entry).length ∧ ∀ other ∈ later, other.reached = 0
        then [format.value write.entry] else []) ++ kept true later

variable {format}

/-! ### One write -/

/-- A complete write leaves its line. -/
theorem written_of_complete {write : LogWrite β} (complete : format.Complete write) :
    format.written write = format.text write.entry ++ [format.stop] := by
  -- At least as many characters as there are have been taken.
  refine List.take_of_length_le ?_
  rw [line, List.length_append, List.length_singleton]
  exact complete

/-- Any other write leaves part of the text, perhaps all of it. -/
theorem written_of_not_complete {write : LogWrite β} (incomplete : ¬ format.Complete write) :
    format.written write = (format.text write.entry).take write.reached := by
  -- The stop is not among the characters that were taken.
  rw [written, line, List.take_append_of_le_length (Nat.le_of_not_lt incomplete)]

/-- An empty line is not read. -/
theorem parse_nil : format.parse [] = none :=
  -- Nothing is the beginning of any text.
  format.parse_pieces [] (by simp) (by simp)

/-- The text of an entry is not empty, as it is read. -/
theorem text_ne_nil (entry : β) : format.text entry ≠ [] := by
  -- An empty text would be parsed as nothing.
  intro nothing
  have value := format.parse_text entry
  rw [nothing, parse_nil] at value
  cases value

/-! ### The whole file -/

/-- What is left of the line that was not ended. -/
structure Begun (format : LineFormat α β γ) (pieces : List (List α)) : Prop where
  /-- They are beginnings of lines. -/
  parts : ∀ piece ∈ pieces, piece ≠ [] ∧ ∃ entry, piece <+: format.text entry

/-- Nothing may be left. -/
theorem Begun.nil : Begun format [] :=
  -- There are no pieces.
  ⟨by simp⟩

/-- A further beginning may be put behind. -/
theorem Begun.concat {pieces : List (List α)} (begun : Begun format pieces) {piece : List α} (some : piece ≠ [])
    {entry : β} (start : piece <+: format.text entry) : Begun format (pieces ++ [piece]) := by
  -- Each piece is one of those before or the last one.
  refine ⟨fun other member => ?_⟩
  rcases List.mem_append.mp member with before | last
  · exact begun.parts other before
  · rw [List.mem_singleton.mp last]
    exact ⟨some, entry, start⟩

/-- No line ends inside. -/
theorem Begun.whole {pieces : List (List α)} (begun : Begun format pieces) :
    ∀ c ∈ pieces.flatten, format.isBreak c = false := by
  -- Each piece is the beginning of a text, which has no break.
  intro c member
  obtain ⟨piece, inside, member⟩ := List.mem_flatten.mp member
  obtain ⟨_, entry, start⟩ := begun.parts piece inside
  exact format.text_whole entry c (start.subset member)

/-- A further beginning makes a line that is read if it is the whole text and nothing is before it. -/
theorem Begun.parse_concat {pieces : List (List α)} (begun : Begun format pieces) {piece : List α}
    (some : piece ≠ []) {entry : β} (start : piece <+: format.text entry) :
    format.parse (pieces ++ [piece]).flatten =
      if pieces = [] ∧ piece.length = (format.text entry).length then Option.some (format.value entry)
      else none := by
  split
  case isTrue alone =>
    rw [alone.1, List.nil_append, List.flatten_singleton, start.eq_of_length alone.2, format.parse_text]
  case isFalse torn =>
    -- The text of another entry would be the beginning of this one's.
    refine format.parse_pieces _ (begun.concat some start).parts fun other whole => torn ?_
    obtain ⟨nothing, same⟩ : pieces = [] ∧ piece = format.text other := by
      have lengths := congrArg List.length whole
      rw [List.length_append, List.length_singleton, List.length_singleton] at lengths
      have nothing : pieces = [] := List.length_eq_zero_iff.mp (by omega)
      exact ⟨nothing, by simpa [nothing] using whole⟩
    exact ⟨nothing, by rw [same, format.text_prefix other entry (same ▸ start)]⟩

/-- The value of a line that was not ended, if it is read and nothing is written behind it. -/
theorem read_pieces {pieces : List (List α)} (begun : Begun format pieces) :
    format.read pieces.flatten = (format.parse pieces.flatten).toList := by
  -- Without a line break the pieces are one line, or none if there are no characters.
  rw [read, linesOf_whole begun.whole]
  split
  case isTrue nothing =>
    rw [nothing, parse_nil]
    rfl
  case isFalse _ => cases value : format.parse pieces.flatten <;> simp [value]

/-- Behind a line that was begun, the values are read whose writes are not lost, and the one of the line if
nothing is written behind it. -/
theorem read_append_file {pieces : List (List α)} (begun : Begun format pieces) (writes : List (LogWrite β)) :
    format.read (pieces.flatten ++ format.file writes) =
      (if ∀ write ∈ writes, write.reached = 0 then (format.parse pieces.flatten).toList else []) ++
        format.kept (decide (pieces ≠ [])) writes := by
  induction writes generalizing pieces with
  | nil => simp [file, kept, read_pieces begun]
  | cons write later ih =>
    rw [file, List.flatMap_cons, ← file, kept]
    by_cases nothing : write.reached = 0
    · -- The write left nothing.
      have written : format.written write = [] := by rw [LineFormat.written, nothing, List.take_zero]
      rw [written, List.nil_append, ih begun, if_pos nothing]
      simp [nothing]
    rw [if_neg nothing, if_neg fun none => nothing (none write (List.mem_cons_self ..)), List.nil_append]
    by_cases complete : format.Complete write
    · -- The line is ended, and the next one is not begun.
      have whole : ∀ c ∈ pieces.flatten ++ format.text write.entry, format.isBreak c = false :=
        fun c member => (List.mem_append.mp member).elim (begun.whole c) (format.text_whole write.entry c)
      have rest := ih Begun.nil
      have joined := begun.parse_concat (text_ne_nil write.entry) (List.prefix_refl _)
      rw [List.flatten_nil, List.nil_append, parse_nil] at rest
      rw [List.flatten_append, List.flatten_singleton] at joined
      rw [if_pos complete, written_of_complete complete, read, List.append_assoc, List.singleton_append,
        ← List.append_assoc, linesOf_append_cons format.stop_isBreak whole,
        List.filterMap_cons, joined, ← read, rest]
      by_cases alone : pieces = [] <;> simp [alone]
    · -- The line is begun, and what is written next comes behind it.
      have start : (format.text write.entry).take write.reached <+: format.text write.entry :=
        List.take_prefix ..
      have some : (format.text write.entry).take write.reached ≠ [] := by
        simp [nothing, text_ne_nil]
      have rest := ih (begun.concat some start)
      have joined := begun.parse_concat some start
      rw [List.flatten_append, List.flatten_singleton] at joined rest
      rw [if_neg complete, written_of_not_complete complete, ← List.append_assoc, rest, joined]
      have size : ((format.text write.entry).take write.reached).length = (format.text write.entry).length ↔
          write.reached = (format.text write.entry).length := by
        have short := Nat.le_of_not_lt complete
        rw [List.length_take, Nat.min_eq_left short]
      simp only [size]
      by_cases alone : pieces = [] <;>
        by_cases all : write.reached = (format.text write.entry).length <;>
        by_cases last : ∀ other ∈ later, other.reached = 0 <;> simp [alone, all, last]

/-- The values that are read from a file are those whose writes are not lost. -/
theorem read_file (format : LineFormat α β γ) (writes : List (LogWrite β)) :
    format.read (format.file writes) = format.kept false writes := by
  -- At the start of a file no line has been begun.
  have nothing : Begun format [] := .nil
  have whole := read_append_file nothing writes
  rw [List.flatten_nil, List.nil_append, parse_nil] at whole
  rw [whole]
  simp

/-! ### What is lost -/

/-- The values that are read are in the order of the writes. -/
theorem kept_sublist (begun : Bool) (writes : List (LogWrite β)) :
    (format.kept begun writes).Sublist (writes.map fun write => format.value write.entry) := by
  induction writes generalizing begun with
  | nil => exact .slnil
  | cons write later ih =>
    -- At most the value of the write itself is put before the others.
    rw [kept, List.map_cons]
    split
    · exact (ih begun).cons _
    · split
      · split
        · exact (ih false).cons _
        · exact (ih false).cons_cons _
      · split
        · exact (ih true).cons_cons _
        · exact (ih true).cons _

/-- A torn write costs one complete write at most: that of the line which was begun. -/
theorem countP_complete_le (begun : Bool) (writes : List (LogWrite β)) :
    writes.countP (format.Complete ·) ≤
      (format.kept begun writes).length + writes.countP (format.Torn ·) + begun.toNat := by
  induction writes generalizing begun with
  | nil => simp
  | cons write later ih =>
    rw [kept, List.countP_cons, List.countP_cons]
    by_cases nothing : write.reached = 0
    · have := ih begun
      simpa [nothing, Complete, Torn] using this
    by_cases complete : format.Complete write
    · -- The line is ended: its own value is read, or the line was begun.
      have := ih false
      cases begun <;> simp [nothing, complete, Torn] at this ⊢ <;> omega
    · have := ih true
      have torn : format.Torn write := ⟨Nat.pos_of_ne_zero nothing, complete⟩
      simp only [nothing, complete, torn, if_false, decide_false, decide_true, if_true,
        List.length_append, Bool.false_eq_true, Bool.toNat_true] at this ⊢
      omega

end LineFormat

end Absm
