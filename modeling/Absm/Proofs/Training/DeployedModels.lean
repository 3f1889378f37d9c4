import Absm.Proofs.Training.RecordedLoss

/-! Models from their training to their use: what is loaded is what the training batches made. -/

namespace Absm

variable {W O B K C : Type} [Field K] [LinearOrder K]

/-! ### Fitting -/

/-- A model, its optimizer and the batches that it is fitted to. -/
structure Fitting (W O B : Type) where
  /-- The weights. -/
  weights : W
  /-- The state of the optimizer. -/
  optimizer : O
  /-- The batches. -/
  batches : Batches B

/-- Fit a model to one iteration of its batches. -/
def Fitting.epoch (torch : Torch W O B K) (fitting : Fitting W O B) : Fitting W O B :=
  -- A pass over the training batches alone.
  let (batches, left) := fitting.batches.iterate
  let stepped := batches.foldl (fun pair batch => torch.optimizerStep pair.1 pair.2 batch)
    (fitting.weights, fitting.optimizer)
  ⟨stepped.1, stepped.2, left⟩

/-- A model that is fitted to its batches for some epochs, and never evaluated. -/
def fittedAfter (torch : Torch W O B K) (model : W) (optimizer : O) (batches : Batches B) :
    Nat → Fitting W O B
  -- No validation and no stopping.
  | 0 => ⟨model, optimizer, batches⟩
  | epoch + 1 => (fittedAfter torch model optimizer batches epoch).epoch torch

/-- The part of a model that is fitted. -/
def Learning.fitting (learning : Learning W O B) : Fitting W O B :=
  -- What evaluation does not touch.
  ⟨learning.weights, learning.optimizer, learning.trainBatches⟩

section Fitting

variable (torch : Torch W O B K)

omit [LinearOrder K] in
/-- While losses are summed the model takes the optimizer's steps. -/
theorem foldl_trainBatch (batches : List B) (pass : TrainingPass W O K) :
    let after := batches.foldl (trainBatch torch) pass
    (after.weights, after.optimizer) =
      batches.foldl (fun pair batch => torch.optimizerStep pair.1 pair.2 batch)
        (pass.weights, pass.optimizer) := by
  -- The loss is left out of the fold.
  induction batches generalizing pass with
  | nil => rfl
  | cons batch batches ih => exact ih (trainBatch torch pass batch)

/-- An epoch with its evaluation fits the model to the training batches. -/
theorem fitting_epoch (learning : Learning W O B) :
    (evalLoss torch (epochLoss torch learning).2).2.fitting = learning.fitting.epoch torch := by
  -- Evaluating changes neither weights nor optimizer.
  have steps := foldl_trainBatch torch learning.trainBatches.iterate.1
    ⟨0.0, 0, learning.weights, learning.optimizer⟩
  simp only [Prod.ext_iff] at steps
  simp only [evalLoss, epochLoss, Learning.fitting, Fitting.epoch, steps.1, steps.2]

/-- The model after some epochs is the one that was fitted to the training batches for as many. -/
theorem fitting_learningAfter (call : TrainCall W B K) (optimizer : O) (epoch : Nat) :
    (learningAfter torch (call.start optimizer).learning epoch).fitting =
      fittedAfter torch call.model optimizer call.trainBatches epoch := by
  -- By induction on the epochs.
  induction epoch with
  | zero => rfl
  | succ epoch ih => rw [learningAfter, fitting_epoch, ih, fittedAfter]

end Fitting

/-- The weights that a call trains: those that were fitted to the training batches until its final epoch. -/
theorem weights_runEpochs (torch : Torch W O B K) (call : TrainCall W B K) (optimizer : O) :
    (runEpochs torch call optimizer).learning.weights =
      (fittedAfter torch call.model optimizer call.trainBatches (finalEpoch torch call optimizer)).weights := by
  -- The loop ends after `finalEpoch` passes.
  rw [(atEpochEnd_runEpochs torch call optimizer).learning]
  exact congrArg Fitting.weights (fitting_learningAfter torch call optimizer _)

/-! ### Runs of trainings -/

variable {torch : Torch W O B K} {formats : Formats W (Json (ExtFloat K)) C} {host : Host}

/-- Train a model, if that succeeds. -/
def trainStep (torch : Torch W O B K) (formats : Formats W (Json (ExtFloat K)) C) (host : Host)
    (tree : FileTree C) (call : TrainCall W B K) : Option (FileTree C) :=
  -- A training that raises ends the run.
  match (trainAutoencoder torch formats host call).run (.fresh tree) with
  | (.ok _, machine) => some machine.tree
  | (.error _, _) => none

/-- What a call saves. -/
def savings (torch : Torch W O B K) (call : TrainCall W B K) : List (SaveCall W (Json (ExtFloat K))) :=
  -- Without a path or an optimizer nothing is saved.
  match call.savePath, torch.adam call.model call.learningRate with
  | some savePath, .ok optimizer => [checkpoint call (runEpochs torch call optimizer) savePath]
  | _, _ => []

/-- A training that succeeds changes the files by what it saves. -/
theorem savings_of_trainStep {tree next : FileTree C} {call : TrainCall W B K}
    (trained : trainStep torch formats host tree call = some next) :
    runAll (saveStep formats host) tree (savings torch call) = some next := by
  rw [trainStep] at trained
  cases made : torch.adam call.model call.learningRate with
  | error error =>
    rw [trainAutoencoder, made, Session.run_bind_error (Session.run_ofExcept_error error _)] at trained
    cases trained
  | ok optimizer =>
    cases saves : call.savePath with
    | none =>
      rw [trainAutoencoder_unsaved formats host made saves] at trained
      simpa [savings, saves, runAll, Machine.fresh] using trained
    | some savePath =>
      rw [trainAutoencoder_eq formats host made, saveCheckpoint, saves] at trained
      simp only [savings, saves, made, runAll, saveStep]
      -- A saving that raised would have ended the training.
      rcases ended : (saveModel formats host (checkpoint call (runEpochs torch call optimizer)
        savePath)).run (.fresh tree) with ⟨raised | ⟨⟩, machine⟩
      · rw [Session.run_bind_error ended] at trained
        cases trained
      · rw [Session.run_bind_ok ended] at trained
        simpa [Machine.fresh] using trained

/-- Trainings that succeed change the files by what they save, one after another. -/
theorem savings_of_trainings {tree final : FileTree C} {calls : List (TrainCall W B K)}
    (trained : runAll (trainStep torch formats host) tree calls = some final) :
    runAll (saveStep formats host) tree (calls.flatMap (savings torch)) = some final := by
  -- Each training contributes what it saves, which may be nothing.
  induction calls generalizing tree with
  | nil => exact trained
  | cons call calls ih =>
    rw [runAll_cons] at trained
    obtain ⟨next, taken, rest⟩ := Option.bind_eq_some_iff.mp trained
    rw [List.flatMap_cons, runAll_append, savings_of_trainStep taken]
    exact ih rest

/-- In a run of trainings that succeed every optimizer is made. -/
theorem made_of_trainings {tree final : FileTree C} {calls : List (TrainCall W B K)}
    (trained : runAll (trainStep torch formats host) tree calls = some final) :
    ∀ call ∈ calls, ∃ optimizer, torch.adam call.model call.learningRate = .ok optimizer := by
  -- A training without an optimizer raises before anything else.
  induction calls generalizing tree with
  | nil => simp
  | cons call calls ih =>
    rw [runAll_cons] at trained
    obtain ⟨next, taken, rest⟩ := Option.bind_eq_some_iff.mp trained
    refine List.forall_mem_cons.mpr ⟨?_, ih rest⟩
    cases made : torch.adam call.model call.learningRate with
    | ok optimizer => exact ⟨optimizer, rfl⟩
    | error error =>
      rw [trainStep, trainAutoencoder, made,
        Session.run_bind_error (Session.run_ofExcept_error error _)] at taken
      cases taken

/-- What is loaded is what a call has trained: the weights that were fitted to its training batches alone, for
as many epochs as it ran, and with them the loss that it returned and the time. -/
def Deployed (torch : Torch W O B K) (formats : Formats W (Json (ExtFloat K)) C) (call : TrainCall W B K)
    (optimizer : O) (model : W) (metadata : Json (ExtFloat K)) : Prop :=
  -- The weights are the last ones and the loss is the best one.
  model = (fittedAfter torch call.model optimizer call.trainBatches
      (finalEpoch torch call optimizer)).weights ∧
    ∃ entries, metadata = formats.mapping entries ∧
      entries.get? "val_loss" = some (.float (runEpochs torch call optimizer).bestVal) ∧
      entries.get? "trained_at" = some (.str call.trainedAt)

/-- What was given back of a checkpoint is what the call has trained. -/
theorem deployed_iff_givenBack {call : TrainCall W B K} {optimizer : O} (savePath : String) {model : W}
    {metadata : Json (ExtFloat K)} :
    Deployed torch formats call optimizer model metadata ↔
      GivenBack formats (checkpoint call (runEpochs torch call optimizer) savePath) model metadata := by
  -- The metadata have two entries.
  have found (key : String) : (checkpoint call (runEpochs torch call optimizer) savePath).metadata.get? key =
      if "val_loss" = key then some (.float (runEpochs torch call optimizer).bestVal)
      else if "trained_at" = key then some (.str call.trainedAt) else none := rfl
  rw [Deployed, GivenBack, ← weights_runEpochs]
  refine and_congr Iff.rfl (exists_congr fun entries => and_congr_right fun _ => ⟨?_, ?_⟩)
  · rintro ⟨loss, time⟩ key value given
    rw [found] at given
    split at given
    case isTrue same => exact same ▸ loss.trans given
    case isFalse =>
      split at given
      case isTrue same => exact same ▸ time.trans given
      case isFalse => cases given
  · intro kept
    exact ⟨kept "val_loss" _ rfl, kept "trained_at" _ rfl⟩

/-- After trainings that succeed, loading from the path of one of them gives what it has trained, whatever was
validated and however patiently, exactly when no later training wrote its weights or its metadata over one
of the two files. -/
theorem deployed_iff (faithful : Faithful formats) {before after : List (TrainCall W B K)}
    {last : TrainCall W B K} {optimizer : O} {savePath : String} {tree final : FileTree C} {place : Location}
    (trained : runAll (trainStep torch formats host) tree (before ++ last :: after) = some final)
    (made : torch.adam last.model last.learningRate = .ok optimizer)
    (saves : last.savePath = some savePath)
    (accepted : validateModelPath host (.ofText savePath) = .ok place)
    (elsewhere : ∀ call ∈ after, ∀ path, call.savePath = some path →
      validateModelPath host (.ofText path) ≠ .ok place) :
    (∃ model metadata,
        ((loadModel formats host (.ofText savePath)).run (.fresh final)).1 = .ok (model, metadata) ∧
          Deployed torch formats last optimizer model metadata) ↔
      ∀ call ∈ after, ∀ path other, call.savePath = some path →
        validateModelPath host (.ofText path) = .ok other → ¬ Collides place other := by
  have saved := savings_of_trainings trained
  rw [List.flatMap_append, List.flatMap_cons, show savings torch last =
    [checkpoint last (runEpochs torch last optimizer) savePath] by simp [savings, saves, made]] at saved
  -- The savings of the later trainings are at their paths.
  have later (saving : SaveCall W (Json (ExtFloat K))) (member : saving ∈ after.flatMap (savings torch)) :
      ∃ call ∈ after, ∃ path, call.savePath = some path ∧ saving.path = .ofText path := by
    obtain ⟨call, listed, inside⟩ := List.mem_flatMap.mp member
    unfold savings at inside
    split at inside
    case h_1 path _ named _ => exact ⟨call, listed, path, named, by rw [List.mem_singleton.mp inside]; rfl⟩
    case h_2 => cases inside
  have apart : ∀ saving ∈ after.flatMap (savings torch), validateModelPath host saving.path ≠ .ok place := by
    intro saving member
    obtain ⟨call, listed, path, named, same⟩ := later saving member
    exact same ▸ elsewhere call listed path named
  simp only [deployed_iff_givenBack savePath]
  refine (loadModel_last_iff faithful saved accepted accepted apart).trans ⟨?_, ?_⟩
  · intro free call listed path other named otherAccepted
    have succeeded := made_of_trainings trained call (by simp [listed])
    obtain ⟨optimizer', made'⟩ := succeeded
    exact free (checkpoint call (runEpochs torch call optimizer') path)
      (List.mem_flatMap.mpr ⟨call, listed, by simp [savings, named, made']⟩) other otherAccepted
  · intro free saving member other otherAccepted
    obtain ⟨call, listed, path, named, same⟩ := later saving member
    exact free call listed path other named (same ▸ otherAccepted)

/-- The formats of the script read back what they write. -/
theorem scriptedFormats_faithful : Faithful (scriptedFormats ℚ) where
  -- The two kinds of content have readers of their own.
  state _ := rfl
  document := by
    rintro metadata text ⟨⟩
    exact ⟨metadata, rfl, fun _ => rfl⟩
  stateUnread _ := ⟨_, rfl⟩
  documentUnread := by
    rintro value text ⟨⟩
    exact ⟨_, rfl⟩

/-- A model that was trained for two epochs is loaded after another one was trained. -/
theorem deployed_two_epochs : ∃ final model metadata,
    runAll (trainStep (scriptedTorch fun epoch => (epoch : ℚ)) (scriptedFormats ℚ) plainHost) .bare
      [savingCall 2, { savingCall 1 with savePath := some "other.pt" }] = some final ∧
    ((loadModel (scriptedFormats ℚ) plainHost (.ofText "model.pt")).run (.fresh final)).1 =
      .ok (model, metadata) ∧
    Deployed (scriptedTorch fun epoch => (epoch : ℚ)) (scriptedFormats ℚ) (savingCall 2) () model
      metadata := by
  have succeeded : (runAll
      (trainStep (scriptedTorch fun epoch => (epoch : ℚ)) (scriptedFormats ℚ) plainHost) .bare
      ([] ++ savingCall 2 :: [{ savingCall 1 with savePath := some "other.pt" }])).isSome := by
    decide +kernel
  obtain ⟨final, trained⟩ := Option.isSome_iff_exists.mp succeeded
  have place : validateModelPath plainHost (.ofText "model.pt") = .ok ["srv", "registry", "model.pt"] := by
    decide +kernel
  have other : validateModelPath plainHost (.ofText "other.pt") = .ok ["srv", "registry", "other.pt"] := by
    decide +kernel
  -- The other model has a name of its own.
  have elsewhere : ∀ call ∈ [{ savingCall 1 with savePath := some "other.pt" }], ∀ path,
      call.savePath = some path →
        validateModelPath plainHost (.ofText path) ≠ .ok ["srv", "registry", "model.pt"] := by
    intro call member path named
    obtain rfl := List.mem_singleton.mp member
    cases named
    exact ne_of_eq_of_ne other (by decide)
  have apart : ∀ call ∈ [{ savingCall 1 with savePath := some "other.pt" }], ∀ path found,
      call.savePath = some path → validateModelPath plainHost (.ofText path) = .ok found →
        ¬ Collides ["srv", "registry", "model.pt"] found := by
    intro call member path found named accepted
    obtain rfl := List.mem_singleton.mp member
    cases named
    obtain rfl : ["srv", "registry", "other.pt"] = found := Except.ok.inj (other.symm.trans accepted)
    unfold Collides
    decide
  obtain ⟨model, metadata, loaded, deployed⟩ := (deployed_iff scriptedFormats_faithful trained
    (saving_made _ 2) rfl place elsewhere).mpr apart
  exact ⟨final, model, metadata, trained, loaded, deployed⟩

end Absm
