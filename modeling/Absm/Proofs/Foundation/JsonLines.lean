import Absm.Foundation.TornLog
import Absm.Proofs.Foundation.JsonTorn

/-! Files with a JSON document on each line, when some of the writes are cut short. -/

namespace Absm

variable {F : Type} [FloatRepr F] {depth : Nat}

/-- No row is only the beginning of another one. -/
theorem Row.dump_eq {members others : List (String × Json F)} (row : Row depth members)
    (other : Row depth others) (start : dump (.object members) <+: dump (.object others)) :
    dump (.object members) = dump (.object others) := by
  obtain ⟨more, whole⟩ := start
  by_cases complete : more = []
  · rw [← whole, complete, List.append_nil]
  · -- The beginning could not be read.
    obtain ⟨error, failed⟩ := loads_cut (other.printable 0) rfl complete whole
    rw [loads_dump (row.printable 0)] at failed
    cases failed

/-- How values are written on lines and read from them. -/
structure RowFormat (F β γ : Type) [FloatRepr F] where
  /-- The members of the mapping that is written for a value. -/
  members : β → List (String × Json F)
  /-- The depth of its containers. -/
  depth : Nat
  /-- It is a row. -/
  row : ∀ entry, Row depth (members entry)
  /-- What is to be read of a value. -/
  value : β → γ
  /-- What a document is read as. -/
  ofDocument : Json F → Option γ
  /-- The mapping is read. -/
  ofDocument_members : ∀ entry, ofDocument (.object (members entry)) = some (value entry)

namespace RowFormat

variable {β γ : Type} (format : RowFormat F β γ) (room : Nat)

/-- What a line is read as, with some more room than the depth of the rows. -/
def parse (line : List Char) : Option γ :=
  -- A line that is no JSON is skipped like a document that is no row.
  match (loads (room + format.depth) line : Except LoadsError (Json F)) with
  | .ok document => format.ofDocument document
  | .error _ => none

/-- The lines of a file, for a reader that takes no printable ASCII for the end of a line. -/
def lines (isBreak : Char → Bool) (newline : isBreak '\n' = true)
    (visible : ∀ c, Visible c → isBreak c = false) : LineFormat Char β γ where
  text entry := dump (.object (format.members entry))
  stop := '\n'
  isBreak := isBreak
  value := format.value
  parse := format.parse room
  stop_isBreak := newline
  text_whole entry c member := visible c (visible_of_mem_dump ((format.row entry).printable 0) member)
  parse_text entry := by
    rw [parse, loads_dump ((format.row entry).printable room)]
    exact format.ofDocument_members entry
  text_prefix first second start := (format.row first).dump_eq (format.row second) start
  parse_pieces pieces parts torn := by
    -- Every entry that a piece belongs to is a row.
    have pieced : ∀ before ∈ pieces, ∃ members : List (String × Json F), Piece format.depth members before := by
      intro before member
      obtain ⟨some, entry, start⟩ := parts before member
      exact ⟨_, format.row entry, some, start⟩
    have none := loads_pieces pieced fun members row whole => by
      obtain ⟨_, entry, start⟩ := parts _ (whole ▸ List.mem_singleton_self _)
      exact torn entry (whole.trans (congrArg (fun text => [text]) (row.dump_eq (format.row entry) start)))
    obtain ⟨error, failed⟩ := none (room + format.depth)
    rw [parse, failed]

end RowFormat

end Absm
