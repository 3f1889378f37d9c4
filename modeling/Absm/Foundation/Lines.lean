import Mathlib.Data.List.Basic

/-! Cutting a text into its lines, and texts that are written line by line. -/

namespace Absm

variable {α β : Type}

/-- The lines of a text, without what ends them. The last line need not be ended. -/
def linesOf (isBreak : α → Bool) : List α → List (List α)
  -- The last line needs no break, and behind a break there is no empty line.
  | [] => []
  | c :: text =>
    if isBreak c then [] :: linesOf isBreak text
    else match linesOf isBreak text with
      | [] => [[c]]
      | line :: others => (c :: line) :: others

variable {isBreak : α → Bool} {stop : α}

/-- A text that begins with an ended line has this line first. -/
theorem linesOf_append_cons (ended : isBreak stop = true) {line : List α}
    (whole : ∀ c ∈ line, isBreak c = false) (rest : List α) :
    linesOf isBreak (line ++ stop :: rest) = line :: linesOf isBreak rest := by
  -- The line grows to the left of its end.
  induction line with
  | nil => simp [linesOf, ended]
  | cons c line ih =>
    rw [List.cons_append, linesOf, if_neg (by simp [whole c]),
      ih fun other member => whole other (List.mem_cons_of_mem _ member)]

/-- A text without the end of a line is one line, if there is anything of it. -/
theorem linesOf_whole {line : List α} (whole : ∀ c ∈ line, isBreak c = false) :
    linesOf isBreak line = if line = [] then [] else [line] := by
  -- Without a break the text is one line, unless it is empty.
  induction line with
  | nil => rfl
  | cons c line ih =>
    rw [linesOf, if_neg (by simp [whole c]), ih fun other member => whole other (List.mem_cons_of_mem _ member)]
    cases line <;> rfl

/-- A text that is written line by line has the lines that were written. -/
theorem linesOf_flatMap (ended : isBreak stop = true) {text : β → List α} {entries : List β}
    (whole : ∀ entry ∈ entries, ∀ c ∈ text entry, isBreak c = false) :
    linesOf isBreak (entries.flatMap fun entry => text entry ++ [stop]) = entries.map text := by
  -- Each entry ends its line, so the next one begins a new one.
  induction entries with
  | nil => rfl
  | cons entry entries ih =>
    rw [List.flatMap_cons, List.append_assoc, List.singleton_append,
      linesOf_append_cons ended (whole entry (List.mem_cons_self ..)),
      ih fun other member => whole other (List.mem_cons_of_mem _ member), List.map_cons]

end Absm
