import Absm.Foundation.Runs
import Absm.Proofs.Models.RegistryFiles

/-! When a loading returns what a saving was given: after later savings, and after interrupted ones. -/

namespace Absm

variable {W V C : Type}

/-! ### Contents after a saving -/

/-- Contents are read back as what was written, and weights and documents are not taken for each
other. -/
structure Faithful (formats : Formats W V C) : Prop where
  /-- Weights are read back. -/
  state (model : W) : formats.loadState (formats.saveState model) = .ok model
  /-- The entries of a document are read back, in whatever order. -/
  document {metadata : Dict String V} {text : C} (dumped : formats.dumps (formats.mapping metadata) = .ok text) :
    ∃ entries, formats.loads text = .ok (formats.mapping entries) ∧
      ∀ key, entries.get? key = metadata.get? key
  /-- Weights are no document. -/
  stateUnread (model : W) : ∃ error, formats.loads (formats.saveState model) = .error error
  /-- A document holds no weights. -/
  documentUnread {value : V} {text : C} (dumped : formats.dumps value = .ok text) :
    ∃ error, formats.loadState text = .error error

private theorem content_of_weights {goal place : Location} {before tree after : FileTree C} {state : C}
    (grown : FileTree.Grown goal before tree) (weights : tree.write place state = .ok after)
    (other : Location) :
    after.content? other = if other = place then some state else before.content? other := by
  -- After weights are written all other contents are what they were.
  rw [FileTree.content?_of_write weights, grown.content?]

/-- An entry of the document is one of the metadata, or the time. -/
theorem payload_get? (formats : Formats W V C) (call : SaveCall W V) (key : String) :
    (payload formats call).get? key = (call.metadata.get? key).or
      (if key = "saved_at" then some (formats.text call.savedAt) else none) := by
  -- The time is written first, so the metadata may overwrite it.
  rw [payload, Dict.get?_update, Dict.get?_set, Dict.get?_empty]

/-! ### Later savings -/

/-- Save a model, if that succeeds. -/
def saveStep (formats : Formats W V C) (host : Host) (tree : FileTree C) (call : SaveCall W V) :
    Option (FileTree C) :=
  -- A save that raises ends the run.
  match (saveModel formats host call).run (.fresh tree) with
  | (.ok (), machine) => some machine.tree
  | (.error _, _) => none

/-- A saving that succeeds writes weights and document, and leaves all other contents alone. -/
theorem saveStep_contents {formats : Formats W V C} {host : Host} {tree next : FileTree C}
    {call : SaveCall W V} (saved : saveStep formats host tree call = some next) :
    ∃ place text, validateModelPath host call.path = .ok place ∧ place ≠ [] ∧
      formats.dumps (formats.mapping (payload formats call)) = .ok text ∧
      ∀ other, next.content? other =
        if other = sidecar place then some text
        else if other = place then some (formats.saveState call.model) else tree.content? other := by
  -- Only one of the ways that a saving goes succeeds.
  have went := saveModel_saves formats host call (.fresh tree)
  rw [saveStep] at saved
  generalize (saveModel formats host call).run (.fresh tree) = result at went saved
  cases went with
  | rejected | blocked | cut => cases saved
  | saved place grownTree after final text accepted writable grown weights dumped metadata =>
    cases saved
    refine ⟨place, text, accepted, nonroot_of_writable writable, dumped, fun other => ?_⟩
    rw [FileTree.content?_of_write metadata, content_of_weights grown weights]
    rfl

/-- What a loading returned is what a saving was given: its weights and every entry of its metadata. -/
def GivenBack (formats : Formats W V C) (call : SaveCall W V) (model : W) (metadata : V) : Prop :=
  -- Every entry the caller gave comes back with its value.
  model = call.model ∧ ∃ entries, metadata = formats.mapping entries ∧
    ∀ key value, call.metadata.get? key = some value → entries.get? key = some value

/-- At a place there is something that is no weights, or beside it something that is no document. -/
def Spoiled (formats : Formats W V C) (tree : FileTree C) (place : Location) : Prop :=
  -- One of the two files is there and cannot be loaded.
  (∃ content error, tree.content? place = some content ∧ formats.loadState content = .error error) ∨
    ∃ content error, tree.content? (sidecar place) = some content ∧
      formats.loads content = .error error

/-- From a spoiled place nothing is loaded. -/
theorem Spoiled.unpaired {formats : Formats W V C} {tree : FileTree C} {place : Location}
    (spoiled : Spoiled formats tree place) (model : W) (metadata : V) :
    ¬ PairAt formats tree place model metadata := by
  -- One of the two files cannot be read.
  rcases spoiled with ⟨content, error, there, failed⟩ | ⟨content, error, there, failed⟩
  · exact unpaired_of_weights (by simp [there, failed]) model metadata
  · exact unpaired_of_document (by simp [there, failed]) model metadata

/-- A saving at one place writes over a file of another one. -/
def Collides (place other : Location) : Prop :=
  -- One of them is the other's document.
  other = sidecar place ∨ sidecar other = place

/-- A saving elsewhere leaves a place alone, unless it writes over one of its files, which spoils it. -/
theorem saveStep_elsewhere {formats : Formats W V C} (faithful : Faithful formats) {host : Host}
    {tree next : FileTree C} {call : SaveCall W V} {place other : Location} (nonroot : place ≠ [])
    (saved : saveStep formats host tree call = some next)
    (accepted : validateModelPath host call.path = .ok other) (elsewhere : other ≠ place) :
    (¬ Collides place other → next.content? place = tree.content? place ∧
        next.content? (sidecar place) = tree.content? (sidecar place)) ∧
      (Collides place other ∨ Spoiled formats tree place → Spoiled formats next place) := by
  obtain ⟨written, text, writtenAt, writtenNonroot, dumped, contents⟩ := saveStep_contents saved
  obtain rfl : other = written := Except.ok.inj (accepted.symm.trans writtenAt)
  -- The two documents are in different places.
  have documents : sidecar place ≠ sidecar other := fun same =>
    elsewhere (sidecar_injective writtenNonroot nonroot same.symm)
  constructor
  · intro apart
    obtain ⟨weights, document⟩ := not_or.mp apart
    rw [contents, contents, if_neg (Ne.symm document), if_neg (Ne.symm elsewhere), if_neg documents,
      if_neg (Ne.symm weights)]
    exact ⟨rfl, rfl⟩
  · intro spoils
    by_cases document : sidecar other = place
    · -- A document is where the weights were.
      obtain ⟨error, unread⟩ := faithful.documentUnread dumped
      exact .inl ⟨text, error, by rw [contents, if_pos document.symm], unread⟩
    · by_cases weights : other = sidecar place
      · -- Weights are where the document was.
        obtain ⟨error, unread⟩ := faithful.stateUnread call.model
        exact .inr ⟨_, error, by rw [contents, if_neg documents, if_pos weights.symm], unread⟩
      · have same := contents place
        have beside := contents (sidecar place)
        rw [if_neg (Ne.symm document), if_neg (Ne.symm elsewhere)] at same
        rw [if_neg documents, if_neg (Ne.symm weights)] at beside
        have already : Spoiled formats tree place := spoils.resolve_left (not_or.mpr ⟨weights, document⟩)
        rw [Spoiled, same, beside]
        exact already

/-- Savings elsewhere leave a place alone, unless one of them writes over its files, which spoils it. -/
theorem saves_elsewhere {formats : Formats W V C} (faithful : Faithful formats) {host : Host}
    {calls : List (SaveCall W V)} {tree final : FileTree C} {place : Location} (nonroot : place ≠ [])
    (saved : runAll (saveStep formats host) tree calls = some final)
    (elsewhere : ∀ call ∈ calls, validateModelPath host call.path ≠ .ok place) :
    ((∀ call ∈ calls, ∀ other, validateModelPath host call.path = .ok other → ¬ Collides place other) →
        final.content? place = tree.content? place ∧
          final.content? (sidecar place) = tree.content? (sidecar place)) ∧
      ((∃ call ∈ calls, ∃ other, validateModelPath host call.path = .ok other ∧ Collides place other) ∨
        Spoiled formats tree place → Spoiled formats final place) := by
  -- Each saving is elsewhere, and what is spoiled stays so.
  induction calls generalizing tree with
  | nil =>
    cases saved
    simp
  | cons call calls ih =>
    rw [runAll_cons] at saved
    obtain ⟨next, taken, rest⟩ := Option.bind_eq_some_iff.mp saved
    obtain ⟨other, _, accepted, _⟩ := saveStep_contents taken
    have differs : other ≠ place := fun same =>
      elsewhere call (List.mem_cons_self ..) (same ▸ accepted)
    obtain ⟨keeps, spoils⟩ := saveStep_elsewhere faithful nonroot taken accepted differs
    obtain ⟨laterKeeps, laterSpoils⟩ := ih rest fun later member =>
      elsewhere later (List.mem_cons_of_mem _ member)
    constructor
    · intro apart
      obtain ⟨weights, document⟩ := keeps (apart call (List.mem_cons_self ..) other accepted)
      obtain ⟨laterWeights, laterDocument⟩ := laterKeeps fun later member =>
        apart later (List.mem_cons_of_mem _ member)
      exact ⟨laterWeights.trans weights, laterDocument.trans document⟩
    · rintro (⟨found, member, foundAt, foundAccepted, collides⟩ | spoiled)
      · rcases List.mem_cons.mp member with rfl | later
        · obtain rfl : other = foundAt := Except.ok.inj (accepted.symm.trans foundAccepted)
          exact laterSpoils (.inr (spoils (.inl collides)))
        · exact laterSpoils (.inl ⟨found, later, foundAt, foundAccepted, collides⟩)
      · exact laterSpoils (.inr (spoils (.inr spoiled)))

/-- After savings that succeed, a loading returns what the last saving at its place was given exactly
when no later saving wrote over one of the two files. -/
theorem loadModel_last_iff {formats : Formats W V C} (faithful : Faithful formats) {host : Host}
    {before after : List (SaveCall W V)} {last : SaveCall W V} {tree final : FileTree C}
    {path : PurePath} {place : Location}
    (saved : runAll (saveStep formats host) tree (before ++ last :: after) = some final)
    (accepted : validateModelPath host path = .ok place)
    (same : validateModelPath host last.path = .ok place)
    (elsewhere : ∀ call ∈ after, validateModelPath host call.path ≠ .ok place) :
    (∃ model metadata, ((loadModel formats host path).run (.fresh final)).1 = .ok (model, metadata) ∧
        GivenBack formats last model metadata) ↔
      ∀ call ∈ after, ∀ other, validateModelPath host call.path = .ok other → ¬ Collides place other := by
  rw [runAll_append] at saved
  obtain ⟨middle, _, saved⟩ := Option.bind_eq_some_iff.mp saved
  rw [runAll_cons] at saved
  obtain ⟨next, taken, rest⟩ := Option.bind_eq_some_iff.mp saved
  obtain ⟨written, text, writtenAt, nonroot, dumped, contents⟩ := saveStep_contents taken
  obtain rfl : place = written := Except.ok.inj (same.symm.trans writtenAt)
  obtain ⟨keeps, spoils⟩ := saves_elsewhere faithful nonroot rest elsewhere
  constructor
  · -- A place that is written over is spoiled to the end.
    intro returns call member other otherAccepted collides
    obtain ⟨model, metadata, returned, _⟩ := returns
    obtain ⟨found, foundAccepted, pair⟩ := loadModel_eq_ok.mp returned
    obtain rfl : place = found := Except.ok.inj (accepted.symm.trans foundAccepted)
    exact (spoils (.inl ⟨call, member, other, otherAccepted, collides⟩)).unpaired model metadata pair
  · intro apart
    obtain ⟨weights, document⟩ := keeps apart
    rw [contents, if_neg (Ne.symm (sidecar_ne place)), if_pos rfl] at weights
    rw [contents, if_pos rfl] at document
    obtain ⟨entries, read, sameEntries⟩ := faithful.document dumped
    refine ⟨last.model, formats.mapping entries, loadModel_eq_ok.mpr ⟨place, accepted,
      ⟨_, weights, faithful.state last.model⟩, text, document, read⟩, rfl, entries, rfl, ?_⟩
    intro key value given
    rw [sameEntries, payload_get?, given, Option.some_or]

/-- The plain formats read back what they write. -/
theorem plainFormats_faithful : Faithful plainFormats where
  -- The two kinds of content have readers of their own.
  state _ := rfl
  document := by
    rintro metadata text ⟨⟩
    exact ⟨metadata, rfl, fun _ => rfl⟩
  stateUnread _ := ⟨_, rfl⟩
  documentUnread := by
    rintro value text ⟨⟩
    exact ⟨_, rfl⟩

/-- A model that was saved is not loaded any more after another one was saved under the name of its
metadata. -/
theorem loadModel_last_overwritten :
    (runAll (saveStep plainFormats plainHost) .bare
        [plainSave "first" ["a.pt"] 1, plainSave "second" ["a.pt.json"] 2]).map
      (fun final => ((loadModel plainFormats plainHost ⟨false, ["a.pt"]⟩).run (.fresh final)).1.toOption.isSome) =
    some false := by
  -- The second save writes its weights over the first one's document.
  decide +kernel

/-- A model that was saved is loaded after another one was saved under a name of its own. -/
theorem loadModel_last_apart : ∃ final model metadata,
    runAll (saveStep plainFormats plainHost) .bare
      [plainSave "first" ["a.pt"] 1, plainSave "second" ["b.pt"] 2] = some final ∧
    ((loadModel plainFormats plainHost ⟨false, ["a.pt"]⟩).run (.fresh final)).1 = .ok (model, metadata) ∧
    GivenBack plainFormats (plainSave "first" ["a.pt"] 1) model metadata := by
  -- Neither of the names is that of the other one's metadata.
  have succeeded : (runAll (saveStep plainFormats plainHost) .bare
      ([] ++ plainSave "first" ["a.pt"] 1 :: [plainSave "second" ["b.pt"] 2])).isSome = true := by
    decide +kernel
  obtain ⟨final, saved⟩ := Option.isSome_iff_exists.mp succeeded
  have accepted : validateModelPath plainHost ⟨false, ["a.pt"]⟩ = .ok ["srv", "registry", "a.pt"] := by
    decide +kernel
  have otherAccepted :
      validateModelPath plainHost ⟨false, ["b.pt"]⟩ = .ok ["srv", "registry", "b.pt"] := by decide +kernel
  have elsewhere : ∀ call ∈ [plainSave "second" ["b.pt"] 2],
      validateModelPath plainHost call.path ≠ .ok ["srv", "registry", "a.pt"] := by
    intro call member
    obtain rfl := List.mem_singleton.mp member
    exact ne_of_eq_of_ne otherAccepted (by decide)
  obtain ⟨model, metadata, returned, givenBack⟩ :=
    (loadModel_last_iff plainFormats_faithful saved accepted accepted elsewhere).mpr <| by
      intro call member other found
      obtain rfl := List.mem_singleton.mp member
      obtain rfl := Except.ok.inj (otherAccepted.symm.trans found)
      unfold Collides
      decide +kernel
  exact ⟨final, model, metadata, saved, returned, givenBack⟩

/-! ### Interrupted savings -/

/-- A saving, and where the process is killed during it. -/
structure SaveAttempt (W V : Type) where
  /-- The saving. -/
  call : SaveCall W V
  /-- The place that the process is killed at, if any. -/
  killedAt : Option Location

/-- What is on disk, and what savings were given. -/
structure RegistryState (W V C : Type) where
  /-- The tree on disk. -/
  tree : FileTree C
  /-- The savings so far, oldest first. -/
  given : List (SaveCall W V)

/-- The machine of the process that saves. -/
def SaveAttempt.machine (attempt : SaveAttempt W V) (tree : FileTree C) : Machine C :=
  -- Nothing has been written or read yet.
  ⟨tree, attempt.killedAt, [], []⟩

/-- What a saving leaves behind, however it ends. -/
def attemptSave (formats : Formats W V C) (host : Host) (state : RegistryState W V C)
    (attempt : SaveAttempt W V) : RegistryState W V C where
  -- Whatever happens, the call counts as made.
  tree := ((saveModel formats host attempt.call).run (attempt.machine state.tree)).2.tree
  given := state.given ++ [attempt.call]

/-- Weights and metadata that a saving was given together; the time may have been added to the
metadata. -/
def GivenTogether (formats : Formats W V C) (call : SaveCall W V) (model : W) (metadata : V) : Prop :=
  -- The time of saving may be the registry's own or the caller's.
  model = call.model ∧ ∃ entries, metadata = formats.mapping entries ∧
    (∀ key, key ≠ "saved_at" → entries.get? key = call.metadata.get? key) ∧
    ∀ value, call.metadata.get? "saved_at" = some value → entries.get? "saved_at" = some value

/-- Some saving at a place was given weights and metadata together. -/
def PairGiven (formats : Formats W V C) (host : Host) (given : List (SaveCall W V)) (place : Location)
    (model : W) (metadata : V) : Prop :=
  -- Some one call brought both.
  ∃ call ∈ given, validateModelPath host call.path = .ok place ∧ GivenTogether formats call model metadata

/-- Whatever is loaded was given together to a saving on the same path. -/
def NeverMixed (formats : Formats W V C) (host : Host) (state : RegistryState W V C) : Prop :=
  -- Whatever loads was given together.
  ∀ path place, validateModelPath host path = .ok place → ∀ model metadata,
    ((loadModel formats host path).run (.fresh state.tree)).1 = .ok (model, metadata) →
    PairGiven formats host state.given place model metadata

/-- A saving writes weights and no metadata: the weights can be written, and then the process is killed,
a directory is in the place of the metadata or they have no text. -/
structure CutShort (formats : Formats W V C) (host : Host) (tree : FileTree C) (attempt : SaveAttempt W V)
    (place : Location) : Prop where
  /-- The path is accepted. -/
  accepted : validateModelPath host attempt.call.path = .ok place
  /-- The weights can be written. -/
  writable : Session.Writable (attempt.machine tree) place
  /-- The metadata are not written. -/
  heldUp : HeldUp formats attempt.call (attempt.machine tree) place

/-- A saving is not cut short where older metadata can be read that the weights were not given with. -/
def HarmlessAttempt (formats : Formats W V C) (host : Host) (state : RegistryState W V C)
    (attempt : SaveAttempt W V) : Prop :=
  -- A save cut between its two files leaves the old document beside the new weights.
  ∀ place, CutShort formats host state.tree attempt place → ∀ text metadata,
    state.tree.content? (sidecar place) = some text → formats.loads text = .ok metadata →
    PairGiven formats host (state.given ++ [attempt.call]) place attempt.call.model metadata

private theorem givenTogether_payload (formats : Formats W V C) (call : SaveCall W V) {entries : Dict String V}
    (same : ∀ key, entries.get? key = (payload formats call).get? key) :
    GivenTogether formats call call.model (formats.mapping entries) := by
  -- The time is the only entry that may be new.
  refine ⟨rfl, entries, rfl, fun key other => ?_, fun value given => ?_⟩
  · rw [same, payload_get?, if_neg other, Option.or_none]
  · rw [same, payload_get?, given, Option.some_or]

/-- A pair that was given stays given. -/
theorem PairGiven.append {formats : Formats W V C} {host : Host} {given : List (SaveCall W V)}
    {place : Location} {model : W} {metadata : V} (pair : PairGiven formats host given place model metadata)
    (more : List (SaveCall W V)) : PairGiven formats host (given ++ more) place model metadata := by
  -- The call that gave it is still there.
  obtain ⟨call, member, rest⟩ := pair
  exact ⟨call, List.mem_append_left _ member, rest⟩

/-- What is loaded is there as a pair, so nothing is mixed when all pairs that are there were given. -/
theorem neverMixed_def {formats : Formats W V C} {host : Host} {state : RegistryState W V C} :
    NeverMixed formats host state ↔ ∀ path place, validateModelPath host path = .ok place →
      ∀ model metadata, PairAt formats state.tree place model metadata →
        PairGiven formats host state.given place model metadata := by
  -- A load returns what is at the place that the path is accepted as.
  constructor
  · intro never path place accepted model metadata pair
    exact never path place accepted model metadata (loadModel_eq_ok.mpr ⟨place, accepted, pair⟩)
  · intro all path place accepted model metadata returned
    obtain ⟨found, foundAccepted, pair⟩ := loadModel_eq_ok.mp returned
    obtain rfl : place = found := Except.ok.inj (accepted.symm.trans foundAccepted)
    exact all path place accepted model metadata pair

/-- Where the contents of two trees agree, so do the pairs. -/
theorem PairAt.congr {formats : Formats W V C} {tree other : FileTree C} {place : Location} {model : W}
    {metadata : V} (pair : PairAt formats tree place model metadata)
    (weights : other.content? place = tree.content? place)
    (document : other.content? (sidecar place) = tree.content? (sidecar place)) :
    PairAt formats other place model metadata :=
  -- Loading reads these two files only.
  ⟨by rw [weights]; exact pair.weights, by rw [document]; exact pair.metadata⟩

/-- After weights are written at a place, a pair elsewhere was there before. -/
theorem PairAt.before_weights {formats : Formats W V C} (faithful : Faithful formats)
    {before after : FileTree C} {place other : Location} {state : W} {model : W} {metadata : V}
    (contents : ∀ found, after.content? found =
      if found = other then some (formats.saveState state) else before.content? found)
    (elsewhere : place ≠ other) (pair : PairAt formats after place model metadata) :
    PairAt formats before place model metadata := by
  -- Weights are no document, so they are not beside the place.
  have beside : sidecar place ≠ other := by
    intro same
    obtain ⟨error, unread⟩ := faithful.stateUnread state
    have spoiled : Spoiled formats after place :=
      .inr ⟨_, error, by rw [contents, if_pos same], unread⟩
    exact spoiled.unpaired model metadata pair
  exact pair.congr (by rw [contents, if_neg elsewhere]) (by rw [contents, if_neg beside])

/-- What a saving does to the contents on disk, however it ends. -/
inductive Leaves (formats : Formats W V C) (host : Host) (attempt : SaveAttempt W V)
    (before after : FileTree C) : Prop where
  /-- Nothing is written. -/
  | nothing (uncut : ∀ place, ¬ CutShort formats host before attempt place)
    (contents : ∀ other, after.content? other = before.content? other)
  /-- The weights are written only. -/
  | weights (place : Location) (cut : CutShort formats host before attempt place)
    (contents : ∀ other, after.content? other =
      if other = place then some (formats.saveState attempt.call.model) else before.content? other)
  /-- Both files are written. -/
  | both (place : Location) (middle : FileTree C) (text : C) (nonroot : place ≠ [])
    (uncut : ∀ place, ¬ CutShort formats host before attempt place)
    (accepted : validateModelPath host attempt.call.path = .ok place)
    (dumped : formats.dumps (formats.mapping (payload formats attempt.call)) = .ok text)
    (weights : ∀ other, middle.content? other =
      if other = place then some (formats.saveState attempt.call.model) else before.content? other)
    (contents : ∀ other, after.content? other =
      if other = sidecar place then some text else middle.content? other)

/-- A saving leaves the contents on disk in one of the three ways. -/
theorem attemptSave_leaves (formats : Formats W V C) (host : Host) (state : RegistryState W V C)
    (attempt : SaveAttempt W V) :
    Leaves formats host attempt state.tree (attemptSave formats host state attempt).tree := by
  -- One case for each way a save can end.
  have went := saveModel_saves formats host attempt.call (attempt.machine state.tree)
  simp only [attemptSave]
  generalize (saveModel formats host attempt.call).run (attempt.machine state.tree) = result at went
  cases went with
  | rejected error refused =>
    refine .nothing (fun place cut => ?_) fun _ => rfl
    have accepted := cut.accepted
    rw [refused] at accepted
    cases accepted
  | blocked place tree raised accepted unwritable grown =>
    refine .nothing (fun other cut => ?_) grown.content?
    obtain rfl : place = other := Except.ok.inj (accepted.symm.trans cut.accepted)
    exact unwritable cut.writable
  | cut place tree after raised accepted writable grown weights heldUp =>
    exact .weights place ⟨accepted, writable, heldUp⟩ (content_of_weights grown weights)
  | saved place tree after final text accepted writable grown weights dumped metadata undisturbed =>
    refine .both place after text (nonroot_of_writable writable) (fun other cut => ?_) accepted dumped
      (content_of_weights grown weights) (FileTree.content?_of_write metadata)
    obtain rfl : place = other := Except.ok.inj (accepted.symm.trans cut.accepted)
    exact undisturbed cut.heldUp

/-- After a document is written beside a place, a pair at another place was there before. -/
theorem PairAt.before_document {formats : Formats W V C} (faithful : Faithful formats)
    {before after : FileTree C} {place other : Location} {value : V} {text : C} {model : W} {metadata : V}
    (otherNonroot : other ≠ []) (dumped : formats.dumps value = .ok text)
    (contents : ∀ found, after.content? found =
      if found = sidecar other then some text else before.content? found)
    (elsewhere : place ≠ other) (pair : PairAt formats after place model metadata) :
    PairAt formats before place model metadata := by
  -- A document holds no weights, so it is not in the place itself.
  obtain ⟨state, found, _⟩ := pair.weights
  have here : place ≠ sidecar other := by
    intro same
    obtain ⟨error, unread⟩ := faithful.documentUnread dumped
    have spoiled : Spoiled formats after place := .inl ⟨text, error, by rw [contents, if_pos same], unread⟩
    exact spoiled.unpaired model metadata pair
  have beside : sidecar place ≠ sidecar other := fun same =>
    elsewhere (sidecar_injective (nonroot_of_content found) otherNonroot same)
  exact pair.congr (by rw [contents, if_neg here]) (by rw [contents, if_neg beside])

/-- A saving keeps weights and metadata together exactly when it is harmless. -/
theorem neverMixed_attempt_iff {formats : Formats W V C} (faithful : Faithful formats) {host : Host}
    {state : RegistryState W V C} (start : NeverMixed formats host state) (attempt : SaveAttempt W V) :
    NeverMixed formats host (attemptSave formats host state attempt) ↔
      HarmlessAttempt formats host state attempt := by
  rw [neverMixed_def] at start ⊢
  constructor
  · -- Old metadata beside the new weights are loaded with them.
    intro never place cut text metadata document read
    refine never attempt.call.path place cut.accepted attempt.call.model metadata ?_
    cases attemptSave_leaves formats host state attempt with
    | nothing uncut => exact absurd cut (uncut place)
    | both _ _ _ _ uncut => exact absurd cut (uncut place)
    | weights other otherCut contents =>
      obtain rfl : place = other := Except.ok.inj (cut.accepted.symm.trans otherCut.accepted)
      exact ⟨⟨_, by rw [contents, if_pos rfl], faithful.state _⟩, text,
        by rw [contents, if_neg (sidecar_ne place), document], read⟩
  · intro harmless path place accepted model metadata pair
    have earlier : PairAt formats state.tree place model metadata →
        PairGiven formats host (state.given ++ [attempt.call]) place model metadata := fun pair =>
      (start path place accepted model metadata pair).append _
    cases attemptSave_leaves formats host state attempt with
    | nothing uncut contents =>
      exact earlier (pair.congr (contents place).symm (contents (sidecar place)).symm)
    | weights other cut contents =>
      by_cases same : place = other
      · subst same
        obtain ⟨⟨content, found, loaded⟩, text, document, read⟩ := pair
        rw [contents, if_pos rfl, Option.some.injEq] at found
        rw [contents, if_neg (sidecar_ne place)] at document
        rw [← found, faithful.state, Except.ok.injEq] at loaded
        exact loaded ▸ harmless place cut text metadata document read
      · exact earlier (pair.before_weights faithful contents same)
    | both other middle text nonroot uncut otherAccepted dumped weights contents =>
      by_cases same : place = other
      · subst same
        obtain ⟨⟨content, found, loaded⟩, again, document, read⟩ := pair
        rw [contents, if_neg (Ne.symm (sidecar_ne place)), weights, if_pos rfl, Option.some.injEq] at found
        rw [contents, if_pos rfl, Option.some.injEq] at document
        rw [← found, faithful.state, Except.ok.injEq] at loaded
        obtain ⟨entries, readBack, sameEntries⟩ := faithful.document dumped
        rw [← document, readBack, Except.ok.injEq] at read
        rw [← loaded, ← read]
        exact ⟨attempt.call, by simp [attemptSave], otherAccepted,
          givenTogether_payload formats attempt.call sameEntries⟩
      · exact earlier ((pair.before_document faithful nonroot dumped contents same).before_weights
          faithful weights same)

/-- A run of savings each of which is harmless where it starts. -/
def HarmlessRun (formats : Formats W V C) (host : Host) :
    RegistryState W V C → List (SaveAttempt W V) → Prop
  -- Harmless at the state it meets.
  | _, [] => True
  | state, attempt :: attempts =>
    HarmlessAttempt formats host state attempt ∧
      HarmlessRun formats host (attemptSave formats host state attempt) attempts

/-- Harmless savings never mix weights and metadata, and after them the next saving does exactly when it
is not harmless. -/
theorem neverMixed_iff {formats : Formats W V C} (faithful : Faithful formats) {host : Host}
    {state : RegistryState W V C} (start : NeverMixed formats host state)
    {attempts : List (SaveAttempt W V)} (harmless : HarmlessRun formats host state attempts) :
    NeverMixed formats host (attempts.foldl (attemptSave formats host) state) ∧
      ∀ next, NeverMixed formats host (attemptSave formats host
          (attempts.foldl (attemptSave formats host) state) next) ↔
        HarmlessAttempt formats host (attempts.foldl (attemptSave formats host) state) next := by
  -- Each saving starts where nothing is mixed, and leaves it so.
  induction attempts generalizing state with
  | nil => exact ⟨start, neverMixed_attempt_iff faithful start⟩
  | cons attempt attempts ih =>
    exact ih ((neverMixed_attempt_iff faithful start attempt).mpr harmless.1) harmless.2

/-- A registry in which nothing was saved. -/
def emptyRegistry : RegistryState String (Json Int) (String ⊕ Json Int) :=
  -- Nothing is saved and nothing is given.
  ⟨.bare, []⟩

private theorem emptyRegistry_neverMixed : NeverMixed plainFormats plainHost emptyRegistry := by
  -- From an empty registry nothing is loaded.
  rw [neverMixed_def]
  intro path place _ model metadata pair
  obtain ⟨⟨state, found, _⟩, _⟩ := pair
  have nonroot := nonroot_of_content found
  rw [FileTree.content?_eq_some] at found
  simp [emptyRegistry, FileTree.bare, nonroot] at found

/-- A pair that was loaded, as the weights and the epoch in their metadata. -/
def loadedEpoch : Except (Raised RegistryError) (String × Json Int) → Option (String × Option Int)
  -- Only what distinguishes the saves is kept.
  | .ok (model, .object entries) =>
    some (model, match lookupEntry "epoch" entries with
      | some (.int epoch) => some epoch
      | _ => none)
  | _ => none

/-- The process is killed between the two files of its second saving, and the second weights are loaded
with the first metadata. -/
theorem neverMixed_killed :
    NeverMixed plainFormats plainHost emptyRegistry ∧
      ¬ NeverMixed plainFormats plainHost
        ([⟨plainSave "first" ["a.pt"] 1, none⟩,
          ⟨plainSave "second" ["a.pt"] 2, some ["srv", "registry", "a.pt.json"]⟩].foldl
          (attemptSave plainFormats plainHost) emptyRegistry) := by
  refine ⟨emptyRegistry_neverMixed, fun never => ?_⟩
  have accepted : validateModelPath plainHost ⟨false, ["a.pt"]⟩ = .ok ["srv", "registry", "a.pt"] := by
    decide +kernel
  generalize reached : [_, _].foldl (attemptSave plainFormats plainHost) emptyRegistry = state at never
  have mixed : loadedEpoch ((loadModel plainFormats plainHost ⟨false, ["a.pt"]⟩).run
      (.fresh state.tree)).1 = some ("second", some 1) := by
    rw [← reached]
    decide +kernel
  have given : state.given = [plainSave "first" ["a.pt"] 1, plainSave "second" ["a.pt"] 2] := by
    rw [← reached]
    rfl
  cases returned : ((loadModel plainFormats plainHost ⟨false, ["a.pt"]⟩).run (.fresh state.tree)).1 with
  | error raised =>
    rw [returned] at mixed
    cases mixed
  | ok pair =>
    obtain ⟨model, metadata⟩ := pair
    obtain ⟨call, member, _, rfl, entries, rfl, others, _⟩ := never _ _ accepted model metadata returned
    have epoch : lookupEntry "epoch" entries.entries = call.metadata.get? "epoch" :=
      others "epoch" (by decide)
    rw [returned] at mixed
    simp only [loadedEpoch, plainFormats, epoch] at mixed
    rw [given] at member
    -- The first saving had other weights, and the second one another epoch.
    rcases List.mem_cons.mp member with rfl | member
    · revert mixed
      decide +kernel
    · obtain rfl := List.mem_singleton.mp member
      revert mixed
      decide +kernel

/-- A saving that is not interrupted keeps its pair together. -/
theorem neverMixed_complete :
    NeverMixed plainFormats plainHost
      ([⟨plainSave "first" ["a.pt"] 1, none⟩].foldl (attemptSave plainFormats plainHost) emptyRegistry) := by
  -- Nothing keeps the metadata from being written.
  have harmless : HarmlessAttempt plainFormats plainHost emptyRegistry ⟨plainSave "first" ["a.pt"] 1, none⟩ := by
    intro place cut
    obtain ⟨_, _, heldUp⟩ := cut
    rcases heldUp with killed | directory | ⟨error, failed⟩
    · cases killed
    · simp [SaveAttempt.machine, emptyRegistry, FileTree.bare, sidecar] at directory
    · cases failed
  have run : HarmlessRun plainFormats plainHost emptyRegistry
      [⟨plainSave "first" ["a.pt"] 1, none⟩] := ⟨harmless, trivial⟩
  exact (neverMixed_iff plainFormats_faithful emptyRegistry_neverMixed run).1

end Absm
