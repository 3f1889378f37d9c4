import Mathlib.Data.List.Basic

/-! Trees of directories and files without links, and programs that work on them until they end, raise
an exception or are killed. -/

namespace Absm

/-- A place in a tree: the names on the way from the root to it. -/
abbrev Location := List String

/-- What is found at a place. -/
inductive Node (C : Type) where
  /-- A directory. -/
  | directory
  /-- A file and its content. -/
  | file (content : C)
  deriving DecidableEq

/-- What the file system answers to a call that it refuses. -/
inductive FileError where
  /-- There is something at the place already. -/
  | exists
  /-- There is nothing at the place, or no directory to put it in. -/
  | notFound
  /-- There is a directory at the place. -/
  | isDirectory
  deriving DecidableEq, Repr

/-- A tree in which everything but the root lies in a directory. -/
structure FileTree (C : Type) where
  /-- What is at a place, if anything. -/
  node : Location → Option (Node C)
  /-- The root is a directory. -/
  root : node [] = some .directory
  /-- What lies at a place lies in a directory. -/
  inDirectory (place : Location) (name : String) (present : node (place ++ [name]) ≠ none) :
    node place = some .directory

/-- A place lies strictly below another one. -/
def Below (base place : Location) : Prop :=
  -- A place does not lie below itself.
  base <+: place ∧ place ≠ base

instance (base place : Location) : Decidable (Below base place) := inferInstanceAs (Decidable (_ ∧ _))

namespace FileTree

variable {C : Type}

/-- The tree that holds nothing but its root. -/
def bare : FileTree C where
  -- The root is a directory, and there is nothing else.
  node place := if place = [] then some .directory else none
  root := rfl
  inDirectory place name present := by simp at present

/-- Whether a directory is at a place. -/
def isDirectory (tree : FileTree C) (place : Location) : Bool :=
  -- A file is no directory, and neither is a place without a node.
  match tree.node place with
  | some .directory => true
  | _ => false

@[simp] theorem isDirectory_iff {tree : FileTree C} {place : Location} :
    tree.isDirectory place = true ↔ tree.node place = some .directory := by
  -- Of the three kinds of places only one is a directory.
  unfold isDirectory
  split
  case h_1 found => simp [found]
  case h_2 other => simpa using other

/-- What is there has a directory around it. -/
theorem parent_of_present {tree : FileTree C} {place : Location} (present : tree.node place ≠ none) :
    tree.node place.dropLast = some .directory := by
  -- The root stands for its own parent.
  rcases List.eq_nil_or_concat place with rfl | ⟨above, name, rfl⟩
  · exact tree.root
  · rw [List.concat_eq_append, List.dropLast_concat]
    rw [List.concat_eq_append] at present
    exact tree.inDirectory above name present

/-- Put something at a place that is free or holds a file. -/
def put (tree : FileTree C) (place : Location) (content : Node C)
    (parent : tree.node place.dropLast = some .directory)
    (leaf : tree.node place ≠ some .directory) : FileTree C where
  node other := if other = place then some content else tree.node other
  root := by
    have nonroot : [] ≠ place := fun same => leaf (same ▸ tree.root)
    rw [if_neg nonroot, tree.root]
  inDirectory above name present := by
    -- Only directories have something below them, so the changed place has not.
    by_cases here : above ++ [name] = place
    · subst here
      rw [List.dropLast_concat] at parent
      rwa [if_neg (by simp)]
    · rw [if_neg here] at present
      have inside := tree.inDirectory above name present
      rwa [if_neg fun same : above = place => leaf (same ▸ inside)]

/-- Make a directory. -/
def mkdir (tree : FileTree C) (place : Location) : Except FileError (FileTree C) :=
  -- The parent is looked at only when the place is free.
  match here : tree.node place with
  | some _ => .error .exists
  | none =>
    if parent : tree.isDirectory place.dropLast = true then
      .ok (tree.put place .directory (isDirectory_iff.mp parent) (by simp [here]))
    else .error .notFound

/-- Write a file, which replaces one that is there. -/
def write (tree : FileTree C) (place : Location) (content : C) : Except FileError (FileTree C) :=
  -- A file that is there is replaced.
  if here : tree.isDirectory place = true then .error .isDirectory
  else if parent : tree.isDirectory place.dropLast = true then
    .ok (tree.put place (.file content) (isDirectory_iff.mp parent) (mt isDirectory_iff.mpr here))
  else .error .notFound

/-- Read a file. -/
def read (tree : FileTree C) (place : Location) : Except FileError C :=
  -- Both errors are those of opening a file.
  match tree.node place with
  | some (.file content) => .ok content
  | some .directory => .error .isDirectory
  | none => .error .notFound

/-- The content of the file at a place, if there is one. -/
def content? (tree : FileTree C) (place : Location) : Option C :=
  -- Only files have a content.
  match tree.node place with
  | some (.file content) => some content
  | _ => none

/-- A place has a content when a file is there. -/
theorem content?_eq_some {tree : FileTree C} {place : Location} {content : C} :
    tree.content? place = some content ↔ tree.node place = some (.file content) := by
  -- This is what the case of a file says.
  unfold content?
  split
  case h_1 found => simp [found]
  case h_2 other => simpa using other content

/-- A file is written when there is no directory in its place and one around it. -/
theorem write_eq_ok {tree : FileTree C} {place : Location} (content : C)
    (leaf : tree.node place ≠ some .directory)
    (parent : tree.node place.dropLast = some .directory) :
    ∃ after, tree.write place content = .ok after := by
  -- Neither of the two checks refuses.
  rw [write, dif_neg (mt isDirectory_iff.mp leaf), dif_pos (isDirectory_iff.mpr parent)]
  exact ⟨_, rfl⟩

/-- A file that is written is there afterwards, and nothing else has changed. -/
theorem node_of_write {tree after : FileTree C} {place : Location} {content : C}
    (written : tree.write place content = .ok after) (other : Location) :
    after.node other = if other = place then some (.file content) else tree.node other := by
  -- Only the branch that returns puts the file there.
  unfold write at written
  split at written
  · cases written
  split at written
  · cases written
    rfl
  · cases written

/-- A file that is written has the new content, and all others have what they had. -/
theorem content?_of_write {tree after : FileTree C} {place : Location} {content : C}
    (written : tree.write place content = .ok after) (other : Location) :
    after.content? other = if other = place then some content else tree.content? other := by
  -- The content is that of the node, and one node is new.
  unfold content?
  rw [node_of_write written]
  by_cases here : other = place
  · rw [if_pos here, if_pos here]
  · rw [if_neg here, if_neg here]

/-- A directory is made where nothing is in its place and a directory around it. -/
theorem mkdir_eq_ok {tree : FileTree C} {place : Location} (free : tree.node place = none)
    (parent : tree.node place.dropLast = some .directory) :
    ∃ after, tree.mkdir place = .ok after := by
  -- The place is free and its parent is a directory.
  unfold mkdir
  split
  case h_1 found => simp [free] at found
  case h_2 =>
    rw [dif_pos (isDirectory_iff.mpr parent)]
    exact ⟨_, rfl⟩

/-- A directory that is made is there afterwards, and nothing else has changed. -/
theorem node_of_mkdir {tree after : FileTree C} {place : Location}
    (made : tree.mkdir place = .ok after) (other : Location) :
    after.node other = if other = place then some .directory else tree.node other := by
  -- Only the branch that writes the directory returns.
  unfold mkdir at made
  split at made
  · cases made
  split at made
  · cases made
    rfl
  · cases made

/-- A file that is read is there. -/
theorem read_eq_ok {tree : FileTree C} {place : Location} {content : C} :
    tree.read place = .ok content ↔ tree.node place = some (.file content) := by
  -- Reading returns in one of the three cases only.
  unfold read
  split
  case h_1 found => simp [found]
  case h_2 found => simp [found]
  case h_3 found => simp [found]

/-- Between two trees nothing but directories on the way to a goal has been added. -/
def Grown (goal : Location) (before after : FileTree C) : Prop :=
  -- The only new nodes are directories on the way to the goal.
  ∀ place, after.node place = before.node place ∨
    place <+: goal ∧ before.node place = none ∧ after.node place = some .directory

/-- Nothing has been added to the tree itself. -/
theorem Grown.refl (goal : Location) (tree : FileTree C) : Grown goal tree tree := fun _ => .inl rfl

/-- Directories that are added in turn have been added. -/
theorem Grown.trans {goal : Location} {first second third : FileTree C}
    (before : Grown goal first second) (after : Grown goal second third) : Grown goal first third := by
  -- What is added first is kept, since it is there.
  intro place
  rcases after place with same | ⟨inPath, free, made⟩
  · rw [same]
    exact before place
  · rcases before place with same | ⟨_, _, there⟩
    · exact .inr ⟨inPath, same ▸ free, made⟩
    · rw [there] at free
      cases free

/-- Adding directories changes no content. -/
theorem Grown.content? {goal : Location} {before after : FileTree C} (grown : Grown goal before after)
    (place : Location) : after.content? place = before.content? place := by
  -- A new directory has no content, and neither had the free place.
  unfold FileTree.content?
  rcases grown place with same | ⟨_, free, made⟩
  · rw [same]
  · rw [free, made]

/-- What is not on the way to the goal is as it was. -/
theorem Grown.aside {goal : Location} {before after : FileTree C} (grown : Grown goal before after)
    {place : Location} (aside : ¬ place <+: goal) : after.node place = before.node place := by
  -- New nodes are on the way only.
  rcases grown place with same | ⟨inPath, _⟩
  · exact same
  · exact absurd inPath aside

end FileTree

/-! ### Programs -/

/-- Why a program ended early. -/
inductive Raised (ε : Type) where
  /-- The file system refused a call. -/
  | os (error : FileError)
  /-- The process was killed. -/
  | killed
  /-- The program raised an exception of its own. -/
  | program (error : ε)
  deriving DecidableEq

/-- The file system that a process works on, and what it has done there. -/
structure Machine (C : Type) where
  /-- The tree as it is now. -/
  tree : FileTree C
  /-- The place that the process is killed at, right before it makes or writes what goes there. -/
  killedAt : Option Location
  /-- The files that were written, in order. -/
  written : List Location
  /-- The files that were read, in order. -/
  read : List Location

/-- A process that has just started on a tree and is not killed. -/
def Machine.fresh {C : Type} (tree : FileTree C) : Machine C := ⟨tree, none, [], []⟩

/-- A program on a file system. -/
def Session (ε C α : Type) :=
  -- A session takes the machine along, also when it raises.
  Machine C → Except (Raised ε) α × Machine C

namespace Session

variable {ε C α β : Type}

/-- Run a program on a machine. -/
def run (session : Session ε C α) (machine : Machine C) : Except (Raised ε) α × Machine C :=
  session machine

instance : Monad (Session ε C) where
  -- What is raised ends the session with the machine as it is then.
  pure value := fun machine => (.ok value, machine)
  bind first rest := fun machine =>
    match first machine with
    | (.ok value, next) => rest value next
    | (.error raised, next) => (.error raised, next)

/-- Raise an exception of the program, or go on with a result. -/
def ofExcept (result : Except ε α) : Session ε C α := fun machine =>
  -- An error of the program leaves the machine as it is.
  (match result with
  | .ok value => .ok value
  | .error error => .error (.program error), machine)

/-- Make a directory unless it is there. -/
def makeDir (place : Location) : Session ε C Unit := fun machine =>
  -- A directory that is there is kept; otherwise the kill comes before the call.
  match machine.tree.node place with
  | some .directory => (.ok (), machine)
  | some (.file _) => (.error (.os .exists), machine)
  | none =>
    if machine.killedAt = some place then (.error .killed, machine)
    else
      match machine.tree.mkdir place with
      | .ok tree => (.ok (), { machine with tree })
      | .error error => (.error (.os error), machine)

/-- Make the directories on the way from a place further down. -/
def makeDirsFrom (above : Location) : List String → Session ε C Unit
  -- Each directory lies below the one that was made before.
  | [] => pure ()
  | name :: names => do
    makeDir (above ++ [name])
    makeDirsFrom (above ++ [name]) names

/-- Make a directory and those around it unless they are there. -/
def makeDirs (place : Location) : Session ε C Unit := makeDirsFrom [] place

/-- Write a file at once. -/
def write (place : Location) (content : C) : Session ε C Unit := fun machine =>
  -- The kill comes before the file is opened.
  if machine.killedAt = some place then (.error .killed, machine)
  else
    match machine.tree.write place content with
    | .ok tree => (.ok (), { machine with tree, written := machine.written ++ [place] })
    | .error error => (.error (.os error), machine)

/-- Read a file. -/
def read (place : Location) : Session ε C C := fun machine =>
  -- Only what has been read is noted.
  match machine.tree.read place with
  | .ok content => (.ok content, { machine with read := machine.read ++ [place] })
  | .error error => (.error (.os error), machine)

/-- Whether anything is at a place. -/
def pathExists (place : Location) : Session ε C Bool := fun machine =>
  -- Files and directories exist alike.
  (.ok (machine.tree.node place).isSome, machine)

/-! ### Rules -/

@[simp] theorem run_pure (value : α) (machine : Machine C) :
    (pure value : Session ε C α).run machine = (.ok value, machine) := rfl

/-- A part that returns hands its value and its machine on. -/
theorem run_bind_ok {first : Session ε C α} {machine next : Machine C} {value : α}
    (returned : first.run machine = (.ok value, next)) (rest : α → Session ε C β) :
    (first >>= rest).run machine = (rest value).run next := by
  -- The rest goes on from where the first session ended.
  show (match first.run machine with | (.ok value, next) => rest value next | (.error raised, next) => _) = _
  rw [returned]
  rfl

/-- A part that raises ends the program. -/
theorem run_bind_error {first : Session ε C α} {machine next : Machine C} {raised : Raised ε}
    (ended : first.run machine = (.error raised, next)) (rest : α → Session ε C β) :
    (first >>= rest).run machine = (.error raised, next) := by
  -- The rest is not run.
  show (match first.run machine with | (.ok value, next) => rest value next | (.error raised, next) => _) = _
  rw [ended]

/-- Parts can be grouped either way. -/
theorem bind_assoc {γ : Type} (first : Session ε C α) (second : α → Session ε C β)
    (third : β → Session ε C γ) :
    first >>= second >>= third = first >>= fun value => second value >>= third := by
  -- An exception of either part ends both sides alike.
  funext machine
  show (first >>= second >>= third).run machine = (first >>= fun value => second value >>= third).run machine
  rcases ended : first.run machine with ⟨raised | value, next⟩
  · rw [run_bind_error (run_bind_error ended second) third, run_bind_error ended]
  · rw [run_bind_ok ended]
    have joined := run_bind_ok ended second
    rcases went : (second value).run next with ⟨raised | other, last⟩
    · rw [run_bind_error (joined.trans went), run_bind_error went]
    · rw [run_bind_ok (joined.trans went), run_bind_ok went]

@[simp] theorem run_ofExcept_ok (value : α) (machine : Machine C) :
    (ofExcept (.ok value) : Session ε C α).run machine = (.ok value, machine) := rfl

@[simp] theorem run_ofExcept_error (error : ε) (machine : Machine C) :
    (ofExcept (.error error) : Session ε C α).run machine = (.error (.program error), machine) := rfl

/-- A place where a directory is or can be made: no file is there, and the process is not killed before
a missing directory is made. -/
def Passable (machine : Machine C) (place : Location) : Prop :=
  -- A file stands in the way, and so does a kill unless the directory is there already.
  (∀ content, machine.tree.node place ≠ some (.file content)) ∧
    (machine.killedAt = some place → machine.tree.node place ≠ none)

/-- At a passable place there is a directory afterwards, and nothing else has changed. -/
theorem run_makeDir_ok {place : Location} {machine : Machine C}
    (parent : machine.tree.node place.dropLast = some .directory) (passable : Passable machine place) :
    ∃ tree, (makeDir place : Session ε C Unit).run machine = (.ok (), { machine with tree }) ∧
      ∀ other, tree.node other = if other = place then some .directory else machine.tree.node other := by
  -- A directory that is there already stays as it is.
  obtain ⟨noFile, alive⟩ := passable
  unfold run makeDir
  cases here : machine.tree.node place with
  | some found =>
    cases found with
    | directory =>
      refine ⟨machine.tree, rfl, fun other => ?_⟩
      split
      case isTrue same => exact same ▸ here
      case isFalse => rfl
    | file content => exact absurd here (noFile content)
  | none =>
    obtain ⟨tree, made⟩ := FileTree.mkdir_eq_ok here parent
    have lives : ¬ machine.killedAt = some place := fun killed => alive killed here
    exact ⟨tree, by simp only [if_neg lives, made], FileTree.node_of_mkdir made⟩

/-- At any other place the program ends, and nothing has changed. -/
theorem run_makeDir_error {place : Location} {machine : Machine C} (blocked : ¬ Passable machine place) :
    ∃ raised, (makeDir place : Session ε C Unit).run machine = (.error raised, machine) ∧
      ∀ error, raised ≠ .program error := by
  -- What is in the way is a file, or the end of the process.
  unfold run makeDir
  cases here : machine.tree.node place with
  | some found =>
    cases found with
    | directory => exact absurd ⟨by simp [here], by simp [here]⟩ blocked
    | file content => exact ⟨_, rfl, by simp⟩
  | none =>
    by_cases killed : machine.killedAt = some place
    · exact ⟨.killed, by simp only [if_pos killed], by simp⟩
    · exact absurd ⟨by simp [here], fun dies => absurd dies killed⟩ blocked

/-- A way from a place further down whose places are all passable. -/
def PassableWay (machine : Machine C) (above : Location) (names : List String) : Prop :=
  -- Every directory on the way must be passed, the last one included.
  ∀ part, part ≠ [] → part <+: names → Passable machine (above ++ part)

/-- A way is passable when its first place is and the way from there on is. -/
theorem passableWay_cons {machine : Machine C} {above : Location} {name : String}
    {names : List String} : PassableWay machine above (name :: names) ↔
      Passable machine (above ++ [name]) ∧ PassableWay machine (above ++ [name]) names := by
  -- A place on the way is the first one or lies below it.
  constructor
  · intro way
    refine ⟨way [name] (by simp) (by simp), fun part nonempty inPath => ?_⟩
    rw [List.append_assoc]
    exact way _ (by simp) (List.cons_prefix_cons.mpr ⟨rfl, inPath⟩)
  · intro ⟨first, rest⟩ part nonempty inPath
    obtain ⟨head, part, rfl⟩ := List.exists_cons_of_ne_nil nonempty
    obtain ⟨rfl, inRest⟩ := List.cons_prefix_cons.mp inPath
    by_cases last : part = []
    · subst last
      exact first
    · have further := rest part last inRest
      rwa [List.append_assoc] at further

/-- Making the directory that a way starts at leaves the way as passable as it is. -/
theorem passableWay_of_makeDir {machine : Machine C} {tree : FileTree C} {place : Location}
    (same : ∀ other, tree.node other =
      if other = place then some .directory else machine.tree.node other) (names : List String) :
    PassableWay { machine with tree } place names ↔ PassableWay machine place names := by
  -- The places on the way lie below the one that has changed.
  have unchanged : ∀ part : List String, part ≠ [] →
      tree.node (place ++ part) = machine.tree.node (place ++ part) := fun part nonempty => by
    rw [same, if_neg (by simpa using nonempty)]
  constructor
  · intro way part nonempty inPath
    have passable := way part nonempty inPath
    unfold Passable at passable ⊢
    rwa [unchanged part nonempty] at passable
  · intro way part nonempty inPath
    have passable := way part nonempty inPath
    unfold Passable at passable ⊢
    rwa [unchanged part nonempty]

/-- Making a directory at a passable place adds it or nothing. -/
theorem grown_of_makeDir {machine : Machine C} {tree : FileTree C} {place goal : Location}
    (inPath : place <+: goal) (passable : Passable machine place) (same : ∀ other, tree.node other =
      if other = place then some .directory else machine.tree.node other) :
    FileTree.Grown goal machine.tree tree := by
  -- The only change is a directory on the way to the goal.
  intro other
  rw [same]
  split
  case isTrue here =>
    subst here
    cases found : machine.tree.node other with
    | none => exact .inr ⟨inPath, rfl, rfl⟩
    | some node =>
      cases node with
      | directory => exact .inl rfl
      | file content => exact absurd found (passable.1 content)
  case isFalse => exact .inl rfl

/-- Making the directories on a way adds nothing but directories. It returns exactly when the way is
passable, and never raises an exception of the program. -/
theorem run_makeDirsFrom (names : List String) {above : Location} {machine : Machine C}
    (inside : machine.tree.node above = some .directory) :
    ∃ tree, FileTree.Grown (above ++ names) machine.tree tree ∧
      (PassableWay machine above names →
        (makeDirsFrom above names : Session ε C Unit).run machine = (.ok (), { machine with tree }) ∧
          tree.node (above ++ names) = some .directory) ∧
      (¬ PassableWay machine above names →
        ∃ raised, (makeDirsFrom above names : Session ε C Unit).run machine =
          (.error raised, { machine with tree }) ∧ ∀ error, raised ≠ .program error) := by
  -- Each directory is made or the program ends there.
  induction names generalizing above machine with
  | nil =>
    refine ⟨machine.tree, FileTree.Grown.refl _ _, fun _ => ⟨rfl, by rwa [List.append_nil]⟩, ?_⟩
    intro blocked
    exact absurd (fun part nonempty inPath => absurd (List.prefix_nil.mp inPath) nonempty) blocked
  | cons name names ih =>
    have goal : above ++ name :: names = above ++ [name] ++ names := by simp
    by_cases passable : Passable machine (above ++ [name])
    · have parent : machine.tree.node (above ++ [name]).dropLast = some .directory := by
        rwa [List.dropLast_concat]
      obtain ⟨middle, made, same⟩ := run_makeDir_ok (ε := ε) parent passable
      have whole : PassableWay machine above (name :: names) ↔
          PassableWay { machine with tree := middle } (above ++ [name]) names := by
        rw [passableWay_cons, passableWay_of_makeDir same]
        exact and_iff_right passable
      have there : ({ machine with tree := middle } : Machine C).tree.node (above ++ [name]) =
          some .directory := by rw [same, if_pos rfl]
      obtain ⟨tree, grown, returns, raises⟩ := ih there
      rw [← goal] at grown returns
      refine ⟨tree, (grown_of_makeDir (by simp) passable same).trans grown, ?_, ?_⟩
      · intro way
        obtain ⟨run, there⟩ := returns (whole.mp way)
        exact ⟨by rw [makeDirsFrom, run_bind_ok made, run], there⟩
      · intro blocked
        obtain ⟨raised, run, foreign⟩ := raises (mt whole.mpr blocked)
        exact ⟨raised, by rw [makeDirsFrom, run_bind_ok made, run], foreign⟩
    · obtain ⟨raised, run, foreign⟩ := run_makeDir_error (ε := ε) passable
      refine ⟨machine.tree, FileTree.Grown.refl _ _, ?_, ?_⟩
      · exact fun way => absurd (passableWay_cons.mp way).1 passable
      · exact fun _ => ⟨raised, by rw [makeDirsFrom, run_bind_error run], foreign⟩

/-- A file that is allowed is written. -/
theorem run_write_ok (machine : Machine C) {place : Location} {content : C} {tree : FileTree C}
    (alive : machine.killedAt ≠ some place) (written : machine.tree.write place content = .ok tree) :
    (write place content : Session ε C Unit).run machine =
      (.ok (), { machine with tree, written := machine.written ++ [place] }) := by
  -- The session is not killed, so it writes.
  unfold run write
  rw [if_neg alive, written]

/-- Where a directory is or the process is killed nothing is written. -/
theorem run_write_error (machine : Machine C) {place : Location} (content : C)
    (blocked : machine.killedAt = some place ∨ machine.tree.node place = some .directory) :
    ∃ raised, (write place content : Session ε C Unit).run machine = (.error raised, machine) ∧
      ∀ error, raised ≠ .program error := by
  -- It is killed before it writes, or the tree refuses.
  unfold run write
  by_cases killed : machine.killedAt = some place
  · exact ⟨.killed, by rw [if_pos killed], by simp⟩
  · have here := FileTree.isDirectory_iff.mpr (blocked.resolve_left killed)
    exact ⟨.os .isDirectory, by rw [if_neg killed, FileTree.write, dif_pos here], by simp⟩

/-- A place where a file can be written once the directories around it are made. -/
structure Writable (machine : Machine C) (place : Location) : Prop where
  /-- The directories around it are there or can be made. -/
  way : PassableWay machine [] place.dropLast
  /-- There is no directory in its place. -/
  leaf : machine.tree.node place ≠ some .directory
  /-- The process is not killed before it writes there. -/
  alive : machine.killedAt ≠ some place

/-- A place other than the root does not lie on the way to its parent. -/
theorem not_prefix_dropLast {place other : Location} (nonroot : place ≠ [])
    (same : other.length = place.length) : ¬ other <+: place.dropLast := by
  -- The parent has fewer names above it.
  intro inPath
  have short := inPath.length_le
  have positive := List.length_pos_iff.mpr nonroot
  rw [List.length_dropLast] at short
  omega

/-- Making the directories around a file and writing it does so exactly when the place is writable, and
never raises an exception of the program. -/
theorem run_makeDirs_write (place : Location) (content : C) (machine : Machine C) :
    ∃ tree, FileTree.Grown place.dropLast machine.tree tree ∧
      (Writable machine place → ∃ after, tree.write place content = .ok after ∧
        (do makeDirs place.dropLast; write place content : Session ε C Unit).run machine =
          (.ok (), { machine with tree := after, written := machine.written ++ [place] })) ∧
      (¬ Writable machine place →
        ∃ raised, (do makeDirs place.dropLast; write place content : Session ε C Unit).run machine =
          (.error raised, { machine with tree }) ∧ ∀ error, raised ≠ .program error) := by
  -- The directories on the way do not stand in the place of the file.
  obtain ⟨tree, grown, returns, raises⟩ := run_makeDirsFrom (ε := ε) place.dropLast machine.tree.root
  rw [List.nil_append] at grown returns
  have unchanged : tree.node place = machine.tree.node place := by
    by_cases nonroot : place = []
    · rw [nonroot, tree.root, machine.tree.root]
    · exact grown.aside (not_prefix_dropLast nonroot rfl)
  refine ⟨tree, grown, ?_, ?_⟩
  · intro ⟨way, leaf, alive⟩
    obtain ⟨made, parent⟩ := returns way
    obtain ⟨after, written⟩ := FileTree.write_eq_ok content (unchanged ▸ leaf) parent
    exact ⟨after, written, by rw [makeDirs, run_bind_ok made]; exact run_write_ok _ alive written⟩
  · intro blocked
    by_cases way : PassableWay machine [] place.dropLast
    · have refused : machine.killedAt = some place ∨ tree.node place = some .directory := by
        by_contra allowed
        obtain ⟨alive, leaf⟩ := not_or.mp allowed
        exact blocked ⟨way, unchanged ▸ leaf, alive⟩
      obtain ⟨raised, run, foreign⟩ := run_write_error (ε := ε) { machine with tree } content refused
      exact ⟨raised, by rw [makeDirs, run_bind_ok (returns way).1, run], foreign⟩
    · obtain ⟨raised, run, foreign⟩ := raises way
      exact ⟨raised, by rw [makeDirs, run_bind_error run], foreign⟩

/-- A file is read where there is one. -/
theorem run_read_ok (machine : Machine C) {place : Location} {content : C}
    (found : machine.tree.content? place = some content) :
    (read place : Session ε C C).run machine =
      (.ok content, { machine with read := machine.read ++ [place] }) := by
  -- A place with a content has a file.
  unfold run read
  rw [FileTree.read_eq_ok.mpr (FileTree.content?_eq_some.mp found)]

/-- Where there is no file nothing is read. -/
theorem run_read_error (machine : Machine C) {place : Location}
    (missing : machine.tree.content? place = none) :
    ∃ error, (read place : Session ε C C).run machine = (.error (.os error), machine) := by
  -- There is nothing at the place, or a directory.
  unfold FileTree.content? at missing
  unfold run read FileTree.read
  split at missing
  · cases missing
  case h_2 other =>
    cases found : machine.tree.node place with
    | none => exact ⟨.notFound, rfl⟩
    | some node =>
      cases node with
      | directory => exact ⟨.isDirectory, rfl⟩
      | file content => exact absurd found (other content)

@[simp] theorem run_pathExists (place : Location) (machine : Machine C) :
    (pathExists place : Session ε C Bool).run machine =
      (.ok (machine.tree.node place).isSome, machine) := rfl

end Session
end Absm
