import Absm.Proofs.Foundation.JsonStrings

/-! A written document reads back as the value it was written from, and no part of it reads at all. -/

namespace Absm

variable {F : Type} [FloatRepr F]

/-- Values that can be written and read back within a given depth of containers. -/
inductive Printable : Nat → Json F → Prop where
  /-- The constant `null`. -/
  | null {room : Nat} : Printable room .null
  /-- A truth value. -/
  | bool {room : Nat} (value : Bool) : Printable room (.bool value)
  /-- A float. -/
  | float {room : Nat} (value : F) : Printable room (.float value)
  /-- A string. -/
  | str {room : Nat} (value : String) : Printable room (.str value)
  /-- A list of printable items. -/
  | array {room : Nat} {items : List (Json F)} (inside : ∀ item ∈ items, Printable room item) :
      Printable (room + 1) (.array items)
  /-- A mapping with distinct keys and printable values. -/
  | object {room : Nat} {members : List (String × Json F)}
      (distinct : (members.map Prod.fst).Nodup)
      (inside : ∀ entry ∈ members, Printable room entry.2) :
      Printable (room + 1) (.object members)

/-- A text that a value may stand before: nothing, a separator, or a closing bracket. -/
def Ends (rest : List Char) : Prop :=
  -- A value is followed by a separator, by the end of what contains it, or by nothing.
  ∀ c ∈ rest.head?, c = ',' ∨ c = ']' ∨ c = '}'

/-- A text whose first character is no whitespace is not shortened. -/
@[simp] theorem skipWhitespace_cons {c : Char} (rest : List Char) (visible : c.isWhitespace = false) :
    skipWhitespace (c :: rest) = c :: rest := by
  -- Nothing is dropped in front of a visible character.
  simp [skipWhitespace, visible]

@[simp] theorem skipWhitespace_nil : skipWhitespace [] = [] := rfl

/-- No plain character is whitespace. -/
theorem plainChar_visible {c : Char} (plain : plainChar c = true) : c.isWhitespace = false := by
  -- Each of the four whitespace characters fails the test.
  cases blank : c.isWhitespace with
  | false => rfl
  | true =>
    simp only [Char.isWhitespace, Bool.or_eq_true, decide_eq_true_eq] at blank
    rcases blank with ((rfl | rfl) | rfl) | rfl
    all_goals exact absurd plain (by decide)

/-- The text of a printable value starts with a visible character that closes nothing. -/
theorem Printable.head {room : Nat} {value : Json F} (printable : Printable room value) :
    ∃ c rest, dump value = c :: rest ∧ c.isWhitespace = false ∧ c ≠ ']' ∧ c ≠ '\uFEFF' := by
  -- Floats are the only values whose first character is not fixed by their kind.
  cases printable with
  | null => exact ⟨_, _, by rw [dump], by decide, by decide, by decide⟩
  | bool value => cases value <;> exact ⟨_, _, by rw [dump], by decide, by decide, by decide⟩
  | float value =>
    obtain ⟨c, rest, text⟩ := List.exists_cons_of_ne_nil (FloatRepr.repr_ne_nil value)
    have plain := FloatRepr.repr_plain value c (by simp [text])
    refine ⟨c, rest, by rw [dump, text], plainChar_visible plain, ?_, ?_⟩
    all_goals
      rintro rfl
      exact absurd plain (by decide)
  | str value => exact ⟨_, _, by rw [dump, dumpString], by decide, by decide, by decide⟩
  | @array _ items inside =>
    cases items <;> exact ⟨_, _, by rw [dump], by decide, by decide, by decide⟩
  | @object _ members distinct inside =>
    cases members <;> exact ⟨_, _, by rw [dump], by decide, by decide, by decide⟩

/-- The text of a key and its value. -/
def dumpMember (entry : String × Json F) : List Char :=
  -- The colon stands between key and value, without a space.
  dumpString entry.1 ++ ':' :: dump entry.2

/-- The text of a key and its value starts with the quote of the key. -/
theorem dumpMember_eq (entry : String × Json F) :
    dumpMember entry = '"' :: (entry.1.toList.flatMap escapeChar ++ '"' :: ':' :: dump entry.2) := by
  -- The key stands between quotes and its characters are escaped.
  simp [dumpMember, dumpString]

/-- The parts that follow the first one, each behind a comma, with the closing bracket. -/
def separated {α : Type} (close : Char) (text : α → List Char) (parts : List α) : List Char :=
  -- Every part has a separator before it; the writer drops the first one.
  (parts.flatMap fun part => ',' :: text part) ++ [close]

/-- The items after the first are written behind commas. -/
theorem dumpItems_eq (items : List (Json F)) : dumpItems items = separated ']' dump items := by
  -- Both definitions put a comma before every item and the bracket at the end.
  induction items with
  | nil => simp [dumpItems, separated]
  | cons item items ih => simp [dumpItems, separated, ih]

/-- The members after the first are written behind commas. -/
theorem dumpMembers_eq (members : List (String × Json F)) :
    dumpMembers members = separated '}' dumpMember members := by
  -- The same for members, with a brace at the end.
  induction members with
  | nil => simp [dumpMembers, separated]
  | cons entry members ih => simp [dumpMembers, separated, dumpMember, ih]

/-- A list with content is written between its brackets. -/
theorem dump_array_cons (item : Json F) (items : List (Json F)) :
    dump (.array (item :: items)) = '[' :: (dump item ++ separated ']' dump items) := by
  -- The items behind the first one bring the bracket along.
  rw [dump, dumpItems_eq]

/-- A mapping with content is written between its braces. -/
theorem dump_object_cons (entry : String × Json F) (members : List (String × Json F)) :
    dump (.object (entry :: members)) =
      '{' :: (dumpMember entry ++ separated '}' dumpMember members) := by
  -- The first member is written like the others, but without a comma.
  rcases entry with ⟨key, value⟩
  simp [dump, dumpMembers_eq, dumpMember]

/-- What follows a part starts with a comma or the closing bracket. -/
theorem ends_separated {α : Type} {close : Char} (closing : close = ']' ∨ close = '}')
    (text : α → List Char) (parts : List α) (rest : List Char) :
    Ends (separated close text parts ++ rest) := by
  -- The text starts with the closing character or with a comma.
  cases parts <;> rcases closing with rfl | rfl <;> simp [Ends, separated]

/-- There are fewer parts than characters. -/
theorem length_separated {α : Type} (close : Char) (text : α → List Char) (parts : List α) :
    parts.length < (separated close text parts).length := by
  -- Every part takes its comma, and the bracket takes one character more.
  induction parts with
  | nil => simp [separated]
  | cons part parts ih =>
    simp only [separated, List.flatMap_cons, List.length_append, List.length_cons] at ih ⊢
    omega

/-- Parts written behind commas are read one after another up to the closing bracket. -/
theorem scanSeparated_text {α β : Type} {close : Char} (closing : close = ']' ∨ close = '}')
    (scan : Scanner α) (add : β → α → β) (text : α → List Char) {parts : List α} (part : α)
    (visible : ∀ p ∈ part :: parts, ∃ c rest, text p = c :: rest ∧ c.isWhitespace = false)
    (reads : ∀ p ∈ part :: parts, ∀ rest, Ends rest → scan (text p ++ rest) = .ok (p, rest))
    (sofar : β) (budget : Nat) (enough : parts.length < budget) (rest : List Char) :
    scanSeparated close scan add budget sofar (text part ++ (separated close text parts ++ rest)) =
      .ok ((part :: parts).foldl add sofar, rest) := by
  -- Each round reads one part and what separates it from the next.
  have shown : close.isWhitespace = false := by rcases closing with rfl | rfl <;> decide
  induction parts generalizing part sofar budget with
  | nil =>
    obtain ⟨budget, rfl⟩ : ∃ n, budget = n + 1 := ⟨budget - 1, by simp at enough; omega⟩
    have read := reads part (by simp) _ (ends_separated closing text [] rest)
    simp only [scanSeparated, read, Bind.bind, Except.bind]
    simp [separated, shown]
  | cons next parts ih =>
    obtain ⟨budget, rfl⟩ : ∃ n, budget = n + 1 := ⟨budget - 1, by simp at enough; omega⟩
    have read := reads part (by simp) _ (ends_separated closing text (next :: parts) rest)
    obtain ⟨c, tail, head, visibleNext⟩ := visible next (by simp)
    have later := ih next (fun p member => visible p (List.mem_cons_of_mem _ member))
      (fun p member => reads p (List.mem_cons_of_mem _ member)) (add sofar part) budget
      (by simpa using enough)
    have comma : (',' : Char).isWhitespace = false := by decide
    have different : (',' : Char) ≠ close := by rcases closing with rfl | rfl <;> decide
    simp only [scanSeparated, read, Bind.bind, Except.bind]
    simp only [separated, List.flatMap_cons, List.cons_append, List.append_assoc,
      skipWhitespace_cons _ comma, if_neg different, if_true]
    rw [head, List.cons_append, skipWhitespace_cons _ visibleNext, ← List.cons_append, ← head,
      List.foldl_cons]
    simpa only [separated, List.append_assoc, List.cons_append, List.nil_append] using later

/-- A written key and value are read back, if the value is. -/
theorem scanMember_text {scan : Scanner (Json F)} {entry : String × Json F}
    (starts : ∃ c rest, dump entry.2 = c :: rest ∧ c.isWhitespace = false)
    (reads : ∀ rest, Ends rest → scan (dump entry.2 ++ rest) = .ok (entry.2, rest))
    (rest : List Char) (ends : Ends rest) :
    scanMember scan (dumpMember entry ++ rest) = .ok (entry, rest) := by
  -- The quote, the key, the colon and the value are met one after another.
  obtain ⟨c, text, head, visible⟩ := starts
  have read := reads rest ends
  simp only [dumpMember, dumpString, List.cons_append, List.append_assoc, List.nil_append,
    scanMember, if_true, scanString_dump, Bind.bind, Except.bind,
    skipWhitespace_cons _ (show (':' : Char).isWhitespace = false from by decide)]
  rw [head, List.cons_append] at read ⊢
  rw [skipWhitespace_cons _ visible, read]

/-- A printable value starts with a visible character. -/
theorem Printable.starts {room : Nat} {value : Json F} (printable : Printable room value) :
    ∃ c rest, dump value = c :: rest ∧ c.isWhitespace = false := by
  -- This is a part of what the head of a printable value is known for.
  obtain ⟨c, text, head, visible, _⟩ := printable.head
  exact ⟨c, text, head, visible⟩

/-- A written key and value are read back, the value by the given scanner. -/
theorem scanMember_dump {scan : Scanner (Json F)} {entry : String × Json F} {room : Nat}
    (printable : Printable room entry.2)
    (reads : ∀ rest, Ends rest → scan (dump entry.2 ++ rest) = .ok (entry.2, rest))
    (rest : List Char) (ends : Ends rest) :
    scanMember scan (dumpMember entry ++ rest) = .ok (entry, rest) :=
  -- The value begins with a character that is no white space.
  scanMember_text printable.starts reads rest ends

/-- A value that starts with a plain character is a constant or a number. -/
theorem scanOnce_atom {room : Nat} {c : Char} {rest : List Char} (plain : plainChar c = true) :
    scanOnce room (c :: rest) = (scanAtom (c :: rest) : Except LoadsError (Json F × List Char)) := by
  -- Quotes and brackets are no plain characters.
  have quote : c ≠ '"' := by rintro rfl; exact absurd plain (by decide)
  have brace : c ≠ '{' := by rintro rfl; exact absurd plain (by decide)
  have bracket : c ≠ '[' := by rintro rfl; exact absurd plain (by decide)
  cases room <;> simp [scanOnce, scanValue, quote, brace, bracket]

/-- A value that starts with a quote is a string. -/
theorem scanOnce_string {room : Nat} (text : List Char) :
    scanOnce room ('"' :: text) = ((scanString text).map fun found => (.str found.1, found.2) :
      Except LoadsError (Json F × List Char)) := by
  -- Strings are read alike at every depth.
  cases room <;> simp [scanOnce, scanValue]

/-- Reading the text of a list gives the list and what follows it, if its items are read. -/
theorem scanOnce_array_dump {room : Nat} {items : List (Json F)}
    (inside : ∀ item ∈ items, Printable room item)
    (reads : ∀ item ∈ items, ∀ rest, Ends rest → scanOnce room (dump item ++ rest) = .ok (item, rest))
    (rest : List Char) :
    scanOnce (room + 1) (dump (.array items) ++ rest) = .ok (.array items, rest) := by
  -- An empty array closes at once; otherwise the loop reads the items one by one.
  cases items with
  | nil =>
    simp [dump, scanOnce, scanValue, scanArray, show (']' : Char).isWhitespace = false from by decide]
  | cons item items =>
    obtain ⟨c, text, head, visible, notClosed, _⟩ := (inside item (by simp)).head
    have enough := length_separated ']' dump items
    have read := scanSeparated_text (.inl rfl) (scanOnce room)
      (fun found item => found ++ [item]) dump item
      (fun value member => (inside value member).starts)
      reads [] (dump item ++ (separated ']' dump items ++ rest)).length
      (by simp only [List.length_append]; omega) rest
    have all : (item :: items).foldl (fun found item => found ++ [item]) [] = item :: items := by
      rw [List.foldl_append_eq_append, List.nil_append, ← List.flatMap_def, List.flatMap_singleton']
    rw [dump_array_cons, List.cons_append, List.append_assoc]
    simp only [scanOnce, scanValue, Char.reduceEq, if_false, if_true, scanArray]
    rw [head, List.cons_append] at read ⊢
    rw [skipWhitespace_cons _ visible, if_neg (by simpa using notClosed), read]
    simp only [Except.map, all]

/-- Reading the text of a mapping gives the mapping and what follows it, if its values are read. -/
theorem scanOnce_object_dump {room : Nat} {members : List (String × Json F)}
    (distinct : (members.map Prod.fst).Nodup)
    (starts : ∀ entry ∈ members, ∃ c rest, dump entry.2 = c :: rest ∧ c.isWhitespace = false)
    (reads : ∀ entry ∈ members, ∀ rest, Ends rest →
      scanOnce room (dump entry.2 ++ rest) = .ok (entry.2, rest))
    (rest : List Char) :
    scanOnce (room + 1) (dump (.object members) ++ rest) = .ok (.object members, rest) := by
  -- An empty object closes at once; otherwise the loop reads the members one by one.
  cases members with
  | nil =>
    simp [dump, scanOnce, scanValue, scanObject, show ('}' : Char).isWhitespace = false from by decide]
  | cons entry members =>
    have enough := length_separated '}' dumpMember members
    have read := scanSeparated_text (.inr rfl) (scanMember (scanOnce room))
      (fun (found : Dict String (Json F)) entry => found.set entry.1 entry.2) dumpMember
      entry (fun value _ => ⟨'"', _, dumpMember_eq value, by decide⟩)
      (fun value member => scanMember_text (starts value member) (reads value member)) .empty
      (dumpMember entry ++ (separated '}' dumpMember members ++ rest)).length
      (by simp only [List.length_append]; omega) rest
    have stored := Dict.ofList_entries distinct
    rw [dump_object_cons, List.cons_append, List.append_assoc]
    simp only [scanOnce, scanValue, Char.reduceEq, if_false, if_true, scanObject]
    rw [dumpMember_eq, List.cons_append] at read ⊢
    rw [skipWhitespace_cons _ (by decide), if_neg (by simp), read]
    simp only [Except.map]
    exact congrArg (fun entries => Except.ok (Json.object entries, rest)) stored

/-- Reading the text of a printable value gives the value and what follows it. -/
theorem scanOnce_dump {room : Nat} {value : Json F} (printable : Printable room value) :
    ∀ rest, Ends rest → scanOnce room (dump value ++ rest) = .ok (value, rest) := by
  -- The induction is on the containers, whose contents have one level of room less.
  induction printable with
  | null =>
    intro rest _
    rw [dump, List.cons_append, scanOnce_atom (by decide)]
    simp [scanAtom, constants, List.isPrefixOf]
  | bool value =>
    intro rest _
    cases value
    all_goals
      rw [dump, List.cons_append, scanOnce_atom (by decide)]
      simp [scanAtom, constants, List.isPrefixOf]
  | float value =>
    intro rest ends
    obtain ⟨c, text, head⟩ := List.exists_cons_of_ne_nil (FloatRepr.repr_ne_nil value)
    have read := FloatRepr.scan_repr value rest ends
    rw [dump, head, List.cons_append, scanOnce_atom (FloatRepr.repr_plain value c (by simp [head])),
      ← List.cons_append, ← head, read]
  | str value =>
    intro rest _
    rw [dump, dumpString, List.cons_append, scanOnce_string, List.append_assoc, List.singleton_append,
      scanString_dump]
    rfl
  | array inside ih => exact fun rest _ => scanOnce_array_dump inside ih rest
  | object distinct inside ih =>
    exact fun rest _ => scanOnce_object_dump distinct (fun entry member => (inside entry member).starts) ih rest

/-- Writing a printable value and loading the text gives the value back. -/
theorem loads_dump {room : Nat} {value : Json F} (printable : Printable room value) :
    loads room (dump value) = .ok value := by
  -- Nothing has to be skipped before the value, and nothing is left behind it.
  have read := scanOnce_dump printable [] (by simp [Ends])
  obtain ⟨c, text, head, visible, _, noMark⟩ := printable.head
  rw [List.append_nil] at read
  have notMark : (dump value).head? ≠ some '\uFEFF' := by simpa [head] using noMark
  rw [loads, if_neg notMark, head, skipWhitespace_cons _ visible, ← head, read]
  rfl

/-! ### Lines -/

/-- A character is printable ASCII. -/
def Visible (c : Char) : Prop :=
  -- These are the characters that a terminal shows, and the space.
  0x20 ≤ c.toNat ∧ c.toNat ≤ 0x7E

instance (c : Char) : Decidable (Visible c) := inferInstanceAs (Decidable (_ ∧ _))

private theorem visible_of_all {text : List Char} (all : text.all (fun c => decide (Visible c)) = true)
    {c : Char} (member : c ∈ text) : Visible c :=
  -- The characters of a closed text are checked one by one.
  of_decide_eq_true (List.all_eq_true.mp all c member)

/-- The characters of numbers and constants are printable ASCII. -/
theorem visible_of_plainChar {c : Char} (plain : plainChar c = true) : Visible c := by
  -- They are digits, letters, signs and points.
  delta plainChar Char.isAlphanum Char.isAlpha Char.isUpper Char.isLower Char.isDigit at plain
  simp only [Bool.or_eq_true, Bool.and_eq_true, decide_eq_true_eq, ge_iff_le] at plain
  rcases plain with (((((⟨low, high⟩ | ⟨low, high⟩) | ⟨low, high⟩) | rfl) | rfl) | rfl)
  all_goals first
    | decide
    | exact ⟨Nat.le_trans (by decide) (UInt32.le_iff_toNat_le.mp low),
        Nat.le_trans (UInt32.le_iff_toNat_le.mp high) (by decide)⟩

/-- The characters of an escape are printable ASCII. -/
theorem visible_of_mem_escapeUnit {unit : Nat} (small : unit < 65536) {c : Char}
    (member : c ∈ escapeUnit unit) : Visible c := by
  -- Each digit is one of sixteen characters.
  have digits : ∀ digit < 16, Visible (hexChar digit) := by decide
  simp only [escapeUnit, List.mem_cons, List.not_mem_nil, or_false] at member
  rcases member with rfl | rfl | rfl | rfl | rfl | rfl
  · decide
  · decide
  all_goals exact digits _ (by omega)

/-- What is written of a character is printable ASCII. -/
theorem visible_of_mem_escapeChar {c written : Char} (member : written ∈ escapeChar c) :
    Visible written := by
  have range := char_range c
  rcases escapeChar_cases c with ⟨letter, _, simple, text⟩ | ⟨_, _, low, high, text⟩ | ⟨basic, text⟩ |
    ⟨beyond, text⟩
  · rw [text] at member
    simp only [List.mem_cons, List.not_mem_nil, or_false] at member
    obtain rfl | rfl := member
    · decide
    · -- There are eight letters that a backslash stands before.
      unfold simpleEscape? at simple
      split at simple <;> first | decide | simp at simple
  · rw [text, List.mem_singleton] at member
    subst member
    exact ⟨low, by omega⟩
  · rw [text] at member
    exact visible_of_mem_escapeUnit basic member
  · rw [text, List.mem_append] at member
    obtain high | low := member
    · exact visible_of_mem_escapeUnit (by omega) high
    · exact visible_of_mem_escapeUnit (by omega) low

/-- A string is written in printable ASCII. -/
theorem visible_of_mem_dumpString {value : String} {c : Char} (member : c ∈ dumpString value) :
    Visible c := by
  -- Quotes stand around characters that are escaped.
  simp only [dumpString, List.mem_cons, List.mem_append, List.mem_flatMap, List.not_mem_nil,
    or_false] at member
  obtain rfl | ⟨_, _, inside⟩ | rfl := member
  · decide
  · exact visible_of_mem_escapeChar inside
  · decide

/-- Parts in printable ASCII are separated in printable ASCII. -/
theorem visible_of_mem_separated {α : Type} {close : Char} (closing : Visible close)
    {text : α → List Char} {parts : List α}
    (inside : ∀ part ∈ parts, ∀ c ∈ text part, Visible c) {c : Char}
    (member : c ∈ separated close text parts) : Visible c := by
  -- Separators, parts and the closing character are visible.
  simp only [separated, List.mem_append, List.mem_flatMap, List.mem_cons, List.not_mem_nil,
    or_false] at member
  obtain ⟨part, among, rfl | within⟩ | rfl := member
  · decide
  · exact inside part among c within
  · exact closing

/-- A mapping is written in printable ASCII if its values are. -/
theorem visible_of_mem_dump_object {members : List (String × Json F)}
    (inside : ∀ entry ∈ members, ∀ c ∈ dump entry.2, Visible c) {c : Char}
    (member : c ∈ dump (.object members)) : Visible c := by
  -- Keys are written as strings, and values are visible by assumption.
  have single : ∀ entry ∈ members, ∀ c ∈ dumpMember entry, Visible c := by
    intro entry among c within
    rw [dumpMember, List.mem_append, List.mem_cons] at within
    obtain key | rfl | rest := within
    · exact visible_of_mem_dumpString key
    · decide
    · exact inside entry among c rest
  cases members with
  | nil =>
    rw [dump] at member
    exact visible_of_all rfl member
  | cons entry members =>
    rw [dump_object_cons, List.mem_cons, List.mem_append] at member
    obtain rfl | first | later := member
    · decide
    · exact single entry (by simp) c first
    · exact visible_of_mem_separated (by decide)
        (fun other among => single other (List.mem_cons_of_mem _ among)) later

/-- A printable value is written in printable ASCII. -/
theorem visible_of_mem_dump {room : Nat} {value : Json F} (printable : Printable room value) {c : Char}
    (member : c ∈ dump value) : Visible c := by
  -- Numbers, constants and strings are, and so are the separators and the brackets.
  induction printable generalizing c with
  | null =>
    rw [dump] at member
    exact visible_of_all rfl member
  | bool value =>
    cases value <;> rw [dump] at member
    · exact visible_of_all rfl member
    · exact visible_of_all rfl member
  | float value =>
    rw [dump] at member
    exact visible_of_plainChar (FloatRepr.repr_plain value c member)
  | str value =>
    rw [dump] at member
    exact visible_of_mem_dumpString member
  | @array _ items inside ih =>
    cases items with
    | nil =>
      rw [dump] at member
      exact visible_of_all rfl member
    | cons item items =>
      rw [dump_array_cons, List.mem_cons, List.mem_append] at member
      obtain rfl | first | later := member
      · decide
      · exact ih item (by simp) first
      · exact visible_of_mem_separated (by decide)
          (fun other among _ => ih other (List.mem_cons_of_mem _ among)) later
  | object distinct inside ih => exact visible_of_mem_dump_object (fun entry among _ => ih entry among) member

/-- A printable value is written on one line. -/
theorem newline_not_mem_dump {room : Nat} {value : Json F} (printable : Printable room value) :
    '\n' ∉ dump value :=
  -- The newline is not visible.
  fun member => absurd (visible_of_mem_dump printable member) (by decide)

end Absm
