import Mathlib.Tactic.Linarith
import Absm.Proofs.Models.RegistryPairs
import Absm.Proofs.Training.StoppingEpoch

/-! Whether the loss in the metadata of a checkpoint is that of its weights. -/

namespace Absm

variable {W O B K C : Type} [Field K] [LinearOrder K]

/-- Weights are on disk, and metadata with a validation loss beside them. -/
def SavedPair (formats : Formats W (Json (ExtFloat K)) C) (host : Host) (tree : FileTree C)
    (savePath : String) (weights : W) (valLoss : ExtFloat K) : Prop :=
  -- The weights and the document are at the place that the path names.
  ∃ place metadata text, validateModelPath host (.ofText savePath) = .ok place ∧
    tree.content? place = some (formats.saveState weights) ∧
    tree.content? (sidecar place) = some text ∧ formats.dumps (formats.mapping metadata) = .ok text ∧
    metadata.get? "val_loss" = some (.float valLoss)

/-- The loss of the last epoch is a number that the loss of no epoch before lies below. -/
def LastIsBest (losses : Nat → ExtFloat K) (last : Nat) : Prop :=
  -- NaN never counts as best.
  losses last ≠ .nan ∧ ∀ epoch, 1 ≤ epoch → epoch ≤ last → ¬ losses epoch < losses last

section Calls

variable {torch : Torch W O B K} {formats : Formats W (Json (ExtFloat K)) C} {host : Host}
  {call : TrainCall W B K} {optimizer : O} {savePath : String} {machine after : Machine C}
  {value : ExtFloat K}

/-- A call that is to save a checkpoint and returns has saved the weights at the end, with the best loss. -/
theorem savedPair_of_returns (made : torch.adam call.model call.learningRate = .ok optimizer)
    (saves : call.savePath = some savePath)
    (ran : (trainAutoencoder torch formats host call).run machine = (.ok value, after)) :
    SavedPair formats host after.tree savePath (runEpochs torch call optimizer).learning.weights
      (runEpochs torch call optimizer).bestVal := by
  rw [trainAutoencoder_eq formats host made, saveCheckpoint, saves] at ran
  have went := saveModel_saves formats host (checkpoint call (runEpochs torch call optimizer) savePath)
    machine
  -- A saving that raised would have ended the call.
  generalize ended : (saveModel formats host
    (checkpoint call (runEpochs torch call optimizer) savePath)).run machine = result at went
  cases went with
  | rejected | blocked | cut =>
    rw [Session.run_bind_error ended] at ran
    cases ran
  | saved place tree middle final text accepted writable grown weights dumped metadata =>
    rw [Session.run_bind_ok ended] at ran
    cases ran
    refine ⟨place, _, text, accepted, ?_, ?_, dumped, ?_⟩
    · rw [FileTree.content?_of_write metadata, if_neg (sidecar_ne place).symm,
        FileTree.content?_of_write weights, if_pos rfl]
      rfl
    · rw [FileTree.content?_of_write metadata, if_pos rfl]
    · rw [payload_get?]
      rfl

/-- A checkpoint that a call saves is one of the weights at the end. The loss beside them is theirs exactly
when the last epoch that is run has the least loss. -/
theorem recordedLoss_iff (made : torch.adam call.model call.learningRate = .ok optimizer)
    {valItems : List B} (list : call.valBatches = .list valItems) (begins : 1 ≤ call.epochs)
    (saves : call.savePath = some savePath)
    (ran : (trainAutoencoder torch formats host call).run machine = (.ok value, after)) :
    SavedPair formats host after.tree savePath (runEpochs torch call optimizer).learning.weights
        (runEpochs torch call optimizer).bestVal ∧
      ((runEpochs torch call optimizer).bestVal =
          evalLossOn torch (runEpochs torch call optimizer).learning.weights valItems ↔
        LastIsBest (validationLoss torch (call.start optimizer).learning)
          (finalEpoch torch call optimizer)) := by
  refine ⟨savedPair_of_returns made saves ran, ?_⟩
  -- The weights at the end are those that the last epoch has evaluated.
  have atEnd := atEpochEnd_runEpochs torch call optimizer
  have first := finalEpoch_pos torch call optimizer begins
  rw [atEnd.learning, ← validationLoss_eq list first]
  exact atEnd.bestVal_eq_iff first le_rfl

end Calls

/-! ### Losses that fall or rise -/

/-- Training that is to be saved, for some epochs. -/
def savingCall (epochs : Int) : TrainCall Nat Nat ℚ :=
  -- The same training, with a path.
  { scriptedCall ℚ (.list [0]) (.list [0]) epochs 10 with savePath := some "model.pt" }

/-- The call on an empty disk, with the losses of a script. -/
def savingRun (losses : Nat → ℚ) (epochs : Int) :
    Except (Raised RegistryError) (ExtFloat ℚ) × Machine (Nat ⊕ Json (ExtFloat ℚ)) :=
  -- On a machine with an empty tree.
  (trainAutoencoder (scriptedTorch losses) (scriptedFormats ℚ) plainHost (savingCall epochs)).run
    (.fresh .bare)

/-- The optimizer is made. -/
theorem saving_made (losses : Nat → ℚ) (epochs : Int) :
    (scriptedTorch losses).adam (savingCall epochs).model (savingCall epochs).learningRate = .ok () :=
  -- The optimizer of the script is always made.
  rfl

/-- When each of three epochs has a lower loss than the one before, the loss that is recorded is that of the
weights. -/
theorem recordedLoss_iff_three :
    let torch := scriptedTorch fun epoch => (4 - epoch : ℚ)
    (runEpochs torch (savingCall 3) ()).history.length = 3 ∧
      (runEpochs torch (savingCall 3) ()).bestVal =
        evalLossOn torch (runEpochs torch (savingCall 3) ()).learning.weights [0] := by
  intro torch
  have returned : (savingRun (fun epoch => 4 - epoch) 3).1 = .ok (.finite 1) := by decide +kernel
  have ran : savingRun (fun epoch => 4 - epoch) 3 =
      (.ok (.finite 1), (savingRun (fun epoch => 4 - epoch) 3).2) := by rw [← returned]
  have first : 1 ≤ finalEpoch torch (savingCall 3) () := finalEpoch_pos _ _ _ (by decide)
  have finds : FindsLosses torch (savingCall 3) () fun epoch => (4 - epoch : ℚ) :=
    findsLosses_scripted _ 3 10
  refine ⟨by decide +kernel,
    (recordedLoss_iff (saving_made _ 3) rfl (by decide) rfl ran).2.mpr ⟨?_, fun epoch begun ended => ?_⟩⟩
  · rw [finds _ first]
    simp
  · -- No earlier epoch has a lower loss.
    rw [finds _ first, finds _ begun]
    have later : (epoch : ℚ) ≤ finalEpoch torch (savingCall 3) () := Nat.cast_le.mpr ended
    exact fun below => absurd (of_decide_eq_true below) (not_lt.mpr (by linarith))

/-- After two epochs with rising losses the weights on disk are those of the second one, and the loss beside
them is that of the first one. -/
theorem recordedLoss_fails :
    (savingRun (fun epoch => epoch) 2).1 = .ok (.finite 1) ∧
      SavedPair (scriptedFormats ℚ) plainHost (savingRun (fun epoch => epoch) 2).2.tree "model.pt" 2
        (.finite 1) ∧
      evalLossOn (scriptedTorch fun epoch => (epoch : ℚ)) 2 [0] = .finite 2 := by
  -- The loss grows, so the last weights are not the best.
  have returned : (savingRun (fun epoch => epoch) 2).1 = .ok (.finite 1) := by decide +kernel
  have ran : savingRun (fun epoch => epoch) 2 =
      (.ok (.finite 1), (savingRun (fun epoch => epoch) 2).2) := by rw [← returned]
  have weights : (runEpochs (scriptedTorch fun epoch => (epoch : ℚ)) (savingCall 2) ()).learning.weights =
      2 := by decide +kernel
  have best : (runEpochs (scriptedTorch fun epoch => (epoch : ℚ)) (savingCall 2) ()).bestVal =
      .finite 1 := by decide +kernel
  refine ⟨returned, ?_, by decide +kernel⟩
  rw [← weights, ← best]
  exact savedPair_of_returns (saving_made _ 2) rfl ran

end Absm
