import Absm.Foundation.Json
import Absm.Foundation.Python
import Absm.Models.ModelRegistry

/-! Which files the registry touches: what a saving and a loading do step by step, and where. -/

namespace Absm

variable {W V C : Type}

/-! ### The metadata beside a model -/

private theorem withSuffix_suffix (name added : List Char) :
    withSuffix name (suffix name ++ added) = name ++ added := by
  -- The suffix is what is left of the name from some position on.
  obtain ⟨start, within, split⟩ : ∃ start, start ≤ name.length ∧ suffix name = name.drop start := by
    simp only [suffix]
    split
    · exact ⟨_, by omega, rfl⟩
    · exact ⟨name.length, Nat.le_refl _, by simp⟩
  have kept : name.length - (name.length - start) = start := by omega
  rw [withSuffix, split, List.length_drop, kept, ← List.append_assoc, List.take_append_drop]

/-- The place beside a file where its name goes on with the suffix of a document. -/
def sidecar (place : Location) : Location :=
  -- The suffix is added to the file's name.
  place.dropLast ++ [place.getLast?.getD "" ++ ".json"]

/-- The metadata of a model are beside it. -/
theorem metadataPath_eq {place : Location} (nonroot : place ≠ []) :
    metadataPath place = .ok (sidecar place) := by
  -- The name keeps its own suffix, so the new one is added to the whole name.
  obtain ⟨above, name, rfl⟩ := List.eq_nil_or_concat place |>.resolve_left nonroot
  simp only [metadataPath, sidecar, List.concat_eq_append, List.getLast?_append, List.getLast?_singleton,
    Option.some_or, Option.getD_some, withSuffix_suffix]
  rw [String.ofList_append, String.ofList_toList, String.ofList_toList]

private theorem sidecar_dropLast (place : Location) : (sidecar place).dropLast = place.dropLast := by
  -- A document lies in the directory of its model.
  rw [sidecar, List.dropLast_concat]

/-- No document is in the place of its model. -/
theorem sidecar_ne (place : Location) : sidecar place ≠ place := by
  -- The name of the document is longer.
  intro same
  rcases List.eq_nil_or_concat place with rfl | ⟨above, name, rfl⟩
  · simp [sidecar] at same
  · simp only [sidecar, List.concat_eq_append, List.dropLast_concat, List.getLast?_append,
      List.getLast?_singleton, Option.some_or, Option.getD_some, List.append_cancel_left_eq,
      List.cons.injEq, and_true] at same
    have lengths := congrArg String.length same
    rw [String.length_append] at lengths
    have positive : 0 < ".json".length := by decide
    omega

/-- Different models have their documents in different places. -/
theorem sidecar_injective {place other : Location} (nonroot : place ≠ []) (otherNonroot : other ≠ [])
    (same : sidecar place = sidecar other) : place = other := by
  -- Directory and name are determined by those of the document.
  obtain ⟨above, name, rfl⟩ := List.eq_nil_or_concat place |>.resolve_left nonroot
  obtain ⟨otherAbove, otherName, rfl⟩ := List.eq_nil_or_concat other |>.resolve_left otherNonroot
  simp only [sidecar, List.concat_eq_append, List.dropLast_concat, List.getLast?_append,
    List.getLast?_singleton, Option.some_or, Option.getD_some] at same ⊢
  obtain ⟨aboves, names⟩ := List.append_inj' same rfl
  have chars := congrArg String.toList (List.singleton_inj.mp names)
  simp only [String.toList_append, List.append_cancel_right_eq] at chars
  rw [aboves, String.toList_inj.mp chars]

private theorem sidecar_aside {place : Location} (nonroot : place ≠ []) :
    ¬ sidecar place <+: place.dropLast := by
  -- It is as deep as the model.
  refine Session.not_prefix_dropLast nonroot ?_
  have positive := List.length_pos_iff.mpr nonroot
  rw [sidecar, List.length_append, List.length_dropLast, List.length_singleton]
  omega

/-! ### Saving -/

/-- The metadata are not written after the weights: the process is killed, a directory is in their place
or they have no text. -/
def HeldUp (formats : Formats W V C) (call : SaveCall W V) (machine : Machine C) (place : Location) : Prop :=
  -- The weights are written by then and the document is not.
  machine.killedAt = some (sidecar place) ∨ machine.tree.node (sidecar place) = some .directory ∨
    ∃ error, formats.dumps (formats.mapping (payload formats call)) = .error error

/-- How a saving goes. -/
inductive Saves (formats : Formats W V C) (host : Host) (call : SaveCall W V) (machine : Machine C) :
    Except (Raised RegistryError) Unit × Machine C → Prop where
  /-- The path is refused. -/
  | rejected (error : RegistryError) (refused : validateModelPath host call.path = .error error) :
    Saves formats host call machine (.error (.program error), machine)
  /-- The weights cannot be written. -/
  | blocked (place : Location) (tree : FileTree C) (raised : Raised RegistryError)
    (accepted : validateModelPath host call.path = .ok place) (unwritable : ¬ Session.Writable machine place)
    (grown : FileTree.Grown place.dropLast machine.tree tree)
    (foreign : ∀ error, raised ≠ .program error) :
    Saves formats host call machine (.error raised, { machine with tree })
  /-- The weights are written, and the metadata are not. -/
  | cut (place : Location) (tree after : FileTree C) (raised : Raised RegistryError)
    (accepted : validateModelPath host call.path = .ok place) (writable : Session.Writable machine place)
    (grown : FileTree.Grown place.dropLast machine.tree tree)
    (weights : tree.write place (formats.saveState call.model) = .ok after)
    (heldUp : HeldUp formats call machine place) :
    Saves formats host call machine
      (.error raised, { machine with tree := after, written := machine.written ++ [place] })
  /-- Both are written. -/
  | saved (place : Location) (tree after final : FileTree C) (text : C)
    (accepted : validateModelPath host call.path = .ok place) (writable : Session.Writable machine place)
    (grown : FileTree.Grown place.dropLast machine.tree tree)
    (weights : tree.write place (formats.saveState call.model) = .ok after)
    (dumped : formats.dumps (formats.mapping (payload formats call)) = .ok text)
    (metadata : after.write (sidecar place) text = .ok final)
    (undisturbed : ¬ HeldUp formats call machine place) :
    Saves formats host call machine
      (.ok (), { machine with tree := final, written := machine.written ++ [place, sidecar place] })

/-- The root is a directory, so no weights are written in its place. -/
theorem nonroot_of_writable {machine : Machine C} {place : Location}
    (writable : Session.Writable machine place) : place ≠ [] :=
  -- The root is a directory, so no file is written there.
  fun root => writable.leaf (root ▸ machine.tree.root)

/-- Every saving goes one of these ways. -/
theorem saveModel_saves (formats : Formats W V C) (host : Host) (call : SaveCall W V)
    (machine : Machine C) :
    Saves formats host call machine ((saveModel formats host call).run machine) := by
  -- The program is followed from one step to the next.
  cases validated : validateModelPath host call.path with
  | error error =>
    rw [saveModel, validated, Session.run_bind_error (Session.run_ofExcept_error error machine)]
    exact .rejected error validated
  | ok place =>
    obtain ⟨tree, grown, returns, raises⟩ := Session.run_makeDirs_write (ε := RegistryError) place
      (formats.saveState call.model) machine
    rw [saveModel, validated, Session.run_bind_ok (Session.run_ofExcept_ok place machine),
      ← Session.bind_assoc]
    by_cases writable : Session.Writable machine place
    · obtain ⟨after, weights, run⟩ := returns writable
      have nonroot := nonroot_of_writable writable
      have beside : after.node (sidecar place) = machine.tree.node (sidecar place) := by
        rw [FileTree.node_of_write weights, if_neg (sidecar_ne place), grown.aside (sidecar_aside nonroot)]
      rw [Session.run_bind_ok run, metadataPath_eq nonroot,
        Session.run_bind_ok (Session.run_ofExcept_ok _ _)]
      -- The machine as it is between the two writes.
      let middle : Machine C := { machine with tree := after, written := machine.written ++ [place] }
      cases dumped : formats.dumps (formats.mapping (payload formats call)) with
      | error error =>
        rw [Session.run_bind_error (Session.run_ofExcept_error error _)]
        exact .cut place tree after _ validated writable grown weights (.inr (.inr ⟨error, dumped⟩))
      | ok text =>
        rw [Session.run_bind_ok (Session.run_ofExcept_ok _ _)]
        by_cases heldUp : HeldUp formats call machine place
        · have refused : machine.killedAt = some (sidecar place) ∨
              after.node (sidecar place) = some .directory := by
            rcases heldUp with killed | directory | ⟨error, failed⟩
            · exact .inl killed
            · exact .inr (beside.trans directory)
            · rw [dumped] at failed
              cases failed
          obtain ⟨raised, ended, _⟩ := Session.run_write_error (ε := RegistryError) middle text refused
          rw [ended]
          exact .cut place tree after raised validated writable grown weights heldUp
        · have leaf : after.node (sidecar place) ≠ some .directory := fun directory =>
            heldUp (.inr (.inl (beside.symm.trans directory)))
          have alive : machine.killedAt ≠ some (sidecar place) := fun killed => heldUp (.inl killed)
          have there : after.node place ≠ none := by simp [FileTree.node_of_write weights]
          have parent : after.node (sidecar place).dropLast = some .directory := by
            rw [sidecar_dropLast]
            exact FileTree.parent_of_present there
          obtain ⟨final, metadata⟩ := FileTree.write_eq_ok text leaf parent
          have ended := Session.run_write_ok (ε := RegistryError) middle alive metadata
          rw [ended, List.append_assoc, List.singleton_append]
          exact .saved place tree after final text validated writable grown weights dumped metadata heldUp
    · obtain ⟨raised, run, foreign⟩ := raises writable
      rw [Session.run_bind_error run]
      exact .blocked place tree raised validated writable grown foreign

/-! ### Loading -/

/-- What is read as a model and its metadata at a place. -/
structure PairAt (formats : Formats W V C) (tree : FileTree C) (place : Location) (model : W)
    (metadata : V) : Prop where
  /-- The file at the place holds the weights. -/
  weights : ∃ state, tree.content? place = some state ∧ formats.loadState state = .ok model
  /-- The file beside it holds the metadata. -/
  metadata : ∃ text, tree.content? (sidecar place) = some text ∧ formats.loads text = .ok metadata

/-- How a loading goes. -/
inductive Loads (formats : Formats W V C) (host : Host) (path : PurePath) (machine : Machine C) :
    Except (Raised RegistryError) (W × V) × Machine C → Prop where
  /-- The path is refused. -/
  | rejected (error : RegistryError) (refused : validateModelPath host path = .error error) :
    Loads formats host path machine (.error (.program error), machine)
  /-- The pair is not there. -/
  | failed (place : Location) (raised : Raised RegistryError) (read : List Location)
    (accepted : validateModelPath host path = .ok place)
    (inside : ∀ other ∈ read, other = place ∨ other = sidecar place)
    (quiet : read = [] → ∃ error, raised = .os error)
    (unpaired : ∀ model metadata, ¬ PairAt formats machine.tree place model metadata) :
    Loads formats host path machine (.error raised, { machine with read := machine.read ++ read })
  /-- The pair is there. -/
  | loaded (place : Location) (model : W) (metadata : V)
    (accepted : validateModelPath host path = .ok place)
    (pair : PairAt formats machine.tree place model metadata) :
    Loads formats host path machine
      (.ok (model, metadata), { machine with read := machine.read ++ [place, sidecar place] })

/-- A place where there is a file is not the root. -/
theorem nonroot_of_content {tree : FileTree C} {place : Location} {content : C}
    (found : tree.content? place = some content) : place ≠ [] := by
  -- The root is a directory.
  rintro rfl
  rw [FileTree.content?_eq_some, tree.root] at found
  cases found

/-- Where no weights can be loaded there is no pair. -/
theorem unpaired_of_weights {formats : Formats W V C} {tree : FileTree C} {place : Location}
    (unloadable : ∀ state, tree.content? place = some state →
      ∀ model, formats.loadState state ≠ .ok model) (model : W) (metadata : V) :
    ¬ PairAt formats tree place model metadata := by
  -- The pair would have to be loaded from these weights.
  intro pair
  obtain ⟨⟨state, found, loaded⟩, _⟩ := pair
  exact unloadable state found model loaded

/-- Where no document can be read there is no pair. -/
theorem unpaired_of_document {formats : Formats W V C} {tree : FileTree C} {place : Location}
    (unreadable : ∀ text, tree.content? (sidecar place) = some text →
      ∀ metadata, formats.loads text ≠ .ok metadata) (model : W) (metadata : V) :
    ¬ PairAt formats tree place model metadata := by
  -- The pair would have to be loaded from this document.
  intro pair
  obtain ⟨_, text, found, loaded⟩ := pair
  exact unreadable text found metadata loaded

/-- Every loading goes one of these ways. -/
theorem loadModel_loads (formats : Formats W V C) (host : Host) (path : PurePath)
    (machine : Machine C) :
    Loads formats host path machine ((loadModel formats host path).run machine) := by
  -- The program is followed from one step to the next.
  cases validated : validateModelPath host path with
  | error error =>
    rw [loadModel, validated, Session.run_bind_error (Session.run_ofExcept_error error machine)]
    exact .rejected error validated
  | ok place =>
    rw [loadModel, validated, Session.run_bind_ok (Session.run_ofExcept_ok place machine)]
    cases weights : machine.tree.content? place with
    | none =>
      obtain ⟨error, ended⟩ := Session.run_read_error (ε := RegistryError) machine weights
      rw [Session.run_bind_error ended]
      have unpaired : ∀ model metadata, ¬ PairAt formats machine.tree place model metadata :=
        unpaired_of_weights (by simp [weights])
      simpa using Loads.failed place (.os error) [] validated (by simp) (fun _ => ⟨error, rfl⟩) unpaired
    | some state =>
      have nonroot := nonroot_of_content weights
      rw [Session.run_bind_ok (Session.run_read_ok machine weights)]
      cases model : formats.loadState state with
      | error error =>
        rw [Session.run_bind_error (Session.run_ofExcept_error error _)]
        exact .failed place _ [place] validated (by simp) (by simp)
          (unpaired_of_weights (by simp [weights, model]))
      | ok weightsRead =>
        rw [Session.run_bind_ok (Session.run_ofExcept_ok _ _), metadataPath_eq nonroot,
          Session.run_bind_ok (Session.run_ofExcept_ok _ _),
          Session.run_bind_ok (Session.run_pathExists _ _)]
        cases document : machine.tree.content? (sidecar place) with
        | none =>
          have unpaired : ∀ model metadata, ¬ PairAt formats machine.tree place model metadata :=
            unpaired_of_document (by simp [document])
          split
          · obtain ⟨error, ended⟩ := Session.run_read_error (ε := RegistryError)
              { machine with read := machine.read ++ [place] } document
            rw [Session.run_bind_error ended]
            exact .failed place _ [place] validated (by simp) (by simp) unpaired
          · exact .failed place _ [place] validated (by simp) (by simp) unpaired
        | some text =>
          have there : (machine.tree.node (sidecar place)).isSome = true := by
            rw [FileTree.content?_eq_some.mp document]
            rfl
          rw [if_pos there, Session.run_bind_ok
            (Session.run_read_ok { machine with read := machine.read ++ [place] } document)]
          cases metadata : formats.loads text with
          | error error =>
            rw [Session.run_bind_error (Session.run_ofExcept_error error _), List.append_assoc,
              List.singleton_append]
            exact .failed place _ [place, sidecar place] validated (by simp) (by simp)
              (unpaired_of_document (by simp [document, metadata]))
          | ok value =>
            rw [Session.run_bind_ok (Session.run_ofExcept_ok _ _), List.append_assoc,
              List.singleton_append]
            exact .loaded place weightsRead value validated
              ⟨⟨state, weights, model⟩, text, document, metadata⟩

/-- A loading returns exactly what is there as a pair. -/
theorem loadModel_eq_ok {formats : Formats W V C} {host : Host} {path : PurePath} {machine : Machine C}
    {model : W} {metadata : V} :
    ((loadModel formats host path).run machine).1 = .ok (model, metadata) ↔
      ∃ place, validateModelPath host path = .ok place ∧
        PairAt formats machine.tree place model metadata := by
  -- Only one of the ways returns, and what is there is determined.
  have went := loadModel_loads formats host path machine
  constructor
  · intro returned
    generalize (loadModel formats host path).run machine = result at went returned
    cases went with
    | rejected error refused => cases returned
    | failed place raised read accepted inside quiet unpaired => cases returned
    | loaded place other value accepted pair =>
      cases returned
      exact ⟨place, accepted, pair⟩
  · intro returned
    obtain ⟨place, accepted, pair⟩ := returned
    generalize (loadModel formats host path).run machine = result at went
    cases went with
    | rejected error refused =>
      rw [accepted] at refused
      cases refused
    | failed other raised read otherAccepted inside quiet unpaired =>
      obtain rfl : place = other := Except.ok.inj (accepted.symm.trans otherAccepted)
      exact absurd pair (unpaired model metadata)
    | loaded other otherModel value otherAccepted otherPair =>
      obtain rfl : place = other := Except.ok.inj (accepted.symm.trans otherAccepted)
      obtain ⟨⟨state, found, loaded⟩, text, document, read⟩ := pair
      obtain ⟨⟨_, otherFound, otherLoaded⟩, _, otherDocument, otherRead⟩ := otherPair
      rw [found, Option.some.injEq] at otherFound
      rw [document, Option.some.injEq] at otherDocument
      subst otherFound
      subst otherDocument
      rw [loaded, Except.ok.injEq] at otherLoaded
      rw [read, Except.ok.injEq] at otherRead
      rw [otherLoaded, otherRead]

/-! ### Containment -/

/-- The root of a registry whose setting is an absolute path. -/
def registryRoot (host : Host) : Location :=
  -- The text is resolved from the top of the tree.
  followParts [] (PurePath.ofText host.modelRegistryDir).parts

/-- The place that a path names, looked up from the registry's root. -/
def namedPlace (host : Host) (path : PurePath) : Location :=
  -- An absolute path ignores the root.
  followParts (if path.absolute then [] else registryRoot host) path.parts

/-- The path names the registry's root itself, without two points in it. -/
def NamesRoot (host : Host) (path : PurePath) : Prop :=
  -- No part goes up and nothing is left below the root.
  ".." ∉ path.parts ∧ namedPlace host path = registryRoot host

instance (host : Host) (path : PurePath) : Decidable (NamesRoot host path) :=
  inferInstanceAs (Decidable (_ ∧ _))

private theorem followParts_eq {parts : List String} (plain : ".." ∉ parts) (place : Location) :
    followParts place parts = place ++ parts := by
  -- Without two points, following parts goes down part by part.
  induction parts generalizing place with
  | nil => simp [followParts]
  | cons part parts ih =>
    simp only [List.mem_cons, not_or] at plain
    have rest := ih plain.2 (place ++ [part])
    rw [followParts] at rest ⊢
    rw [List.foldl_cons, if_neg (Ne.symm plain.1), rest, List.append_assoc, List.singleton_append]

private theorem plain_followParts {place : Location} (plain : ".." ∉ place) (parts : List String) :
    ".." ∉ followParts place parts := by
  -- What is reached from the root has no two points in it.
  induction parts generalizing place with
  | nil => exact plain
  | cons part parts ih =>
    rw [followParts, List.foldl_cons]
    split
    case isTrue => exact ih fun member => plain (List.dropLast_subset place member)
    case isFalse other => exact ih (by simp [plain, Ne.symm other])

/-- Validation of a path in a registry with an absolute root: it is refused if it has two points in it
or names a place outside. -/
theorem validateModelPath_eq {host : Host} (absolute : (PurePath.ofText host.modelRegistryDir).absolute = true)
    (path : PurePath) : validateModelPath host path =
      if ".." ∈ path.parts then .error (.valueError "path traversal is not allowed")
      else if registryRoot host <+: namedPlace host path then .ok (namedPlace host path)
      else .error (.valueError "model path must be under registry base dir") := by
  -- Nothing is expanded, since both paths start at the root.
  have expand : ∀ path : PurePath, path.absolute = true → host.expanduser path = .ok path := by
    intro path starts
    unfold Host.expanduser
    rw [starts]
  have resolved : resolveBaseDir host = .ok (registryRoot host) := by
    rw [resolveBaseDir, expand _ absolute]
    simp only [Except.map, Host.resolve, absolute, if_true, registryRoot]
  -- A relative path is looked up from the root, which it is joined to.
  have named : ∀ path : PurePath, ".." ∉ path.parts → ∃ joined : PurePath, joined.absolute = true ∧
      (if path.absolute then path else PurePath.join ⟨true, registryRoot host⟩ path) = joined ∧
      host.resolve joined = namedPlace host path := by
    intro path plain
    cases starts : path.absolute with
    | true =>
      exact ⟨path, starts, by simp, by simp [Host.resolve, namedPlace, starts]⟩
    | false =>
      refine ⟨⟨true, registryRoot host ++ path.parts⟩, rfl, by simp [PurePath.join, starts], ?_⟩
      have root : ".." ∉ registryRoot host := plain_followParts (by simp) _
      simp only [Host.resolve, namedPlace, starts, if_true, Bool.false_eq_true, if_false]
      rw [followParts_eq (by simp [root, plain]), followParts_eq plain, List.nil_append]
  unfold validateModelPath
  split
  case isTrue => rfl
  case isFalse plain =>
    obtain ⟨joined, starts, same, place⟩ := named path plain
    rw [resolved]
    simp only [ok_bind, same, expand joined starts, place]

/-- A call was refused as invalid before it did anything. -/
def RefusedAtOnce {α : Type} (machine : Machine C) (result : Except (Raised RegistryError) α × Machine C) :
    Prop :=
  -- The machine is as it was, so nothing was written.
  ∃ message, result = (.error (.program (.valueError message)), machine)

/-- Calls on a path touch files strictly below the registry's root only, and are refused before they do
anything if the path names no place there. -/
structure Contained (formats : Formats W V C) (host : Host) (tree : FileTree C) (path : PurePath) : Prop where
  /-- What is written lies strictly below the root. -/
  writes : ∀ call : SaveCall W V, call.path = path →
    ∀ place ∈ ((saveModel formats host call).run (.fresh tree)).2.written, Below (registryRoot host) place
  /-- What is read lies strictly below the root. -/
  reads : ∀ place ∈ ((loadModel formats host path).run (.fresh tree)).2.read,
    Below (registryRoot host) place
  /-- No model is saved at another place. -/
  saving : ¬ Below (registryRoot host) (namedPlace host path) → ∀ call : SaveCall W V, call.path = path →
    RefusedAtOnce (.fresh tree) ((saveModel formats host call).run (.fresh tree))
  /-- No model is loaded from another place. -/
  loading : ¬ Below (registryRoot host) (namedPlace host path) →
    RefusedAtOnce (.fresh tree) ((loadModel formats host path).run (.fresh tree))

/-- Beside a place below another one lies a place below it. -/
theorem below_sidecar {base place : Location} (below : Below base place) : Below base (sidecar place) := by
  -- The directory of a place below lies below or is the base.
  obtain ⟨⟨rest, rfl⟩, other⟩ := below
  have nonempty : rest ≠ [] := by simpa using other
  obtain ⟨above, name, rfl⟩ := List.eq_nil_or_concat rest |>.resolve_left nonempty
  rw [sidecar, List.concat_eq_append, ← List.append_assoc, List.dropLast_concat]
  refine ⟨by simp, fun same => ?_⟩
  have lengths := congrArg List.length same
  simp at lengths

private theorem below_of_accepted {host : Host}
    (absolute : (PurePath.ofText host.modelRegistryDir).absolute = true) {path : PurePath}
    (other : ¬ NamesRoot host path) {place : Location} (accepted : validateModelPath host path = .ok place) :
    place = namedPlace host path ∧ Below (registryRoot host) place := by
  -- Both checks have been passed.
  rw [validateModelPath_eq absolute] at accepted
  split at accepted
  case isTrue => cases accepted
  case isFalse plain =>
    split at accepted
    case isTrue inside =>
      cases accepted
      exact ⟨rfl, inside, fun root => other ⟨plain, root⟩⟩
    case isFalse => cases accepted

private theorem refused_message {host : Host}
    (absolute : (PurePath.ofText host.modelRegistryDir).absolute = true) {path : PurePath}
    {error : RegistryError} (refused : validateModelPath host path = .error error) :
    ∃ message, error = .valueError message := by
  -- A path that is not accepted in a registry with an absolute root is refused as invalid.
  rw [validateModelPath_eq absolute] at refused
  split at refused
  · exact ⟨_, (Except.error.inj refused).symm⟩
  split at refused
  · cases refused
  · exact ⟨_, (Except.error.inj refused).symm⟩

private theorem refused_of_loads {formats : Formats W V C} {host : Host} {path : PurePath} {tree : FileTree C}
    {result : Except (Raised RegistryError) (W × V) × Machine C}
    (went : Loads formats host path (.fresh tree) result) (atOnce : RefusedAtOnce (.fresh tree) result) :
    ∃ error, validateModelPath host path = .error error := by
  -- A loading that has read nothing was stopped by the file system.
  obtain ⟨message, refused⟩ := atOnce
  cases went with
  | rejected error invalid => exact ⟨error, invalid⟩
  | failed place raised read accepted inside quiet unpaired =>
    have untouched : read = [] := congrArg (fun result => result.2.read) refused
    obtain ⟨error, rfl⟩ := quiet untouched
    cases congrArg Prod.fst refused
  | loaded place model metadata accepted pair => cases congrArg Prod.fst refused

/-- A path that names no place below the root, nor the root itself, is refused as invalid. -/
private theorem refused_outside {host : Host}
    (absolute : (PurePath.ofText host.modelRegistryDir).absolute = true) {path : PurePath}
    (other : ¬ NamesRoot host path) (outside : ¬ Below (registryRoot host) (namedPlace host path)) :
    ∃ message, validateModelPath host path = .error (.valueError message) := by
  -- What is accepted lies below the root, unless it is the root itself.
  cases validated : validateModelPath host path with
  | ok place =>
    obtain ⟨rfl, below⟩ := below_of_accepted absolute other validated
    exact absurd below outside
  | error error =>
    obtain ⟨message, rfl⟩ := refused_message absolute validated
    exact ⟨message, rfl⟩

/-- Where only places below the root are accepted, a saving writes below the root. -/
private theorem written_below (formats : Formats W V C) {host : Host} {call : SaveCall W V}
    (inside : ∀ place, validateModelPath host call.path = .ok place → Below (registryRoot host) place)
    (tree : FileTree C) {place : Location}
    (member : place ∈ ((saveModel formats host call).run (.fresh tree)).2.written) :
    Below (registryRoot host) place := by
  -- Each way a save can go writes at the accepted place and beside it.
  have went := saveModel_saves formats host call (.fresh tree)
  generalize (saveModel formats host call).run (.fresh tree) = result at went member
  cases went with
  | rejected | blocked => cases member
  | cut _ _ _ _ accepted =>
    obtain rfl := List.mem_singleton.mp member
    exact inside _ accepted
  | saved _ _ _ _ _ accepted =>
    have below := inside _ accepted
    rcases List.mem_cons.mp member with rfl | member
    · exact below
    · obtain rfl := List.mem_singleton.mp member
      exact below_sidecar below

/-- Where only places below the root are accepted, a loading reads below the root. -/
private theorem read_below (formats : Formats W V C) {host : Host} {path : PurePath}
    (inside : ∀ place, validateModelPath host path = .ok place → Below (registryRoot host) place)
    (tree : FileTree C) {place : Location}
    (member : place ∈ ((loadModel formats host path).run (.fresh tree)).2.read) :
    Below (registryRoot host) place := by
  -- Each way a load can go reads at the accepted place and beside it.
  have went := loadModel_loads formats host path (.fresh tree)
  generalize (loadModel formats host path).run (.fresh tree) = result at went member
  cases went with
  | rejected => cases member
  | failed _ _ _ accepted listed =>
    have below := inside _ accepted
    rcases listed place member with rfl | rfl
    · exact below
    · exact below_sidecar below
  | loaded _ _ _ accepted =>
    have below := inside _ accepted
    rcases List.mem_cons.mp member with rfl | member
    · exact below
    · obtain rfl := List.mem_singleton.mp member
      exact below_sidecar below

/-- In a registry with an absolute root, calls on a path stay inside exactly when the path does not name
the root itself. -/
theorem contained_iff (formats : Formats W V C) {host : Host}
    (absolute : (PurePath.ofText host.modelRegistryDir).absolute = true) (tree : FileTree C)
    (path : PurePath) : Contained formats host tree path ↔ ¬ NamesRoot host path := by
  constructor
  · -- The root is accepted, so a loading is not refused as invalid.
    intro contained named
    obtain ⟨plain, root⟩ := named
    have accepted : validateModelPath host path = .ok (registryRoot host) := by
      rw [validateModelPath_eq absolute, if_neg plain, root, if_pos (List.prefix_refl _)]
    obtain ⟨error, refused⟩ := refused_of_loads (loadModel_loads formats host path (.fresh tree))
      (contained.loading fun below => below.2 root)
    rw [accepted] at refused
    cases refused
  · intro other
    have inside (place : Location) (accepted : validateModelPath host path = .ok place) :
        Below (registryRoot host) place := (below_of_accepted absolute other accepted).2
    refine ⟨?_, fun place => read_below formats inside tree, ?_, ?_⟩
    · rintro call rfl place
      exact written_below formats inside tree
    · rintro outside call rfl
      obtain ⟨message, refused⟩ := refused_outside absolute other outside
      exact ⟨message, by rw [saveModel, refused, Session.run_bind_error (Session.run_ofExcept_error _ _)]⟩
    · intro outside
      obtain ⟨message, refused⟩ := refused_outside absolute other outside
      exact ⟨message, by rw [loadModel, refused, Session.run_bind_error (Session.run_ofExcept_error _ _)]⟩

/-- Contents that keep weights and documents as they are, and apart. -/
def plainFormats : Formats String (Json Int) (String ⊕ Json Int) where
  -- The two kinds of content are kept apart, so neither is taken for the other.
  saveState := .inl
  loadState
    | .inl model => .ok model
    | .inr _ => .error .formatError
  text := .str
  mapping metadata := .object metadata.entries
  dumps value := .ok (.inr value)
  loads
    | .inl _ => .error .formatError
    | .inr value => .ok value

/-- A host whose registry is configured by an absolute path. -/
def plainHost : Host :=
  -- No links and an absolute root.
  ⟨["work"], fun _ => none, "/srv/registry"⟩

/-- Saving some weights with the number of an epoch, below the root. -/
def plainSave (model : String) (parts : List String) (epoch : Int) : SaveCall String (Json Int) :=
  -- The one entry of the metadata tells the saves apart.
  ⟨model, ⟨false, parts⟩, .ofList [("epoch", .int epoch)], "1970-01-01T00:00:00Z"⟩

/-- Before the registry's root is made, a model that is saved there is written in its place, and its
metadata are written beside it. -/
theorem contained_root :
    ((saveModel plainFormats plainHost (plainSave "weights" [] 1)).run (.fresh .bare)).2.written =
        [["srv", "registry"], ["srv", "registry.json"]] ∧
      ¬ Contained plainFormats plainHost .bare ⟨false, []⟩ := by
  -- The second of the two files is not even in the registry.
  have written : ((saveModel plainFormats plainHost (plainSave "weights" [] 1)).run (.fresh .bare)).2.written =
      [["srv", "registry"], ["srv", "registry.json"]] := by decide +kernel
  refine ⟨written, fun contained => ?_⟩
  have below := contained.writes (plainSave "weights" [] 1) rfl ["srv", "registry.json"] (by simp [written])
  revert below
  decide +kernel

/-- Models with a name of their own are saved and loaded inside. -/
theorem contained_named : Contained plainFormats plainHost .bare ⟨false, ["a.pt"]⟩ :=
  -- A name below the root that is not the root.
  (contained_iff plainFormats (by decide +kernel) .bare _).mpr (by decide +kernel)

end Absm
