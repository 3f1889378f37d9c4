import Absm.Foundation.ExtFloat
import Absm.Foundation.Loops
import Absm.Models.ModelRegistry

/-! Training of the autoencoder, with early stopping and a checkpoint at the end. -/

namespace Absm

/-! ### Batches -/

/-- A collection of batches to iterate over, apart from any other one. -/
inductive Batches (B : Type) where
  /-- A list, which every iteration goes through. -/
  | list (items : List B)
  /-- An iterator, which yields what it has left once. -/
  | iterator (remaining : List B)

namespace Batches

variable {B : Type}

/-- What one iteration yields, and what the collection is like afterwards. -/
def iterate : Batches B → List B × Batches B
  -- An iterator is used up, and a list stays.
  | .list items => (items, .list items)
  | .iterator remaining => (remaining, .iterator [])

/-- The list of the batches that the first iteration yields. -/
def listed (batches : Batches B) : Batches B :=
  -- What the iterator would yield again and again if it were a list.
  .list batches.iterate.1

end Batches

/-! ### Training -/

/-- The library that trains models of weights `W` with optimizers of state `O` on batches `B`. -/
structure Torch (W O B K : Type) where
  /-- `Adam` for the parameters of a model and a learning rate, which it may refuse. -/
  adam : W → ExtFloat K → Except RegistryError O
  /-- The reconstruction of a batch by a model. -/
  reconstruct : W → B → B
  /-- The mean squared error between a reconstruction and a batch. -/
  mseLoss : B → B → ExtFloat K
  /-- The gradients of the loss on a batch, and the optimizer's step along them. -/
  optimizerStep : W → O → B → W × O

variable {W O B K V C : Type}

/-- The loss of a model on a batch. -/
def Torch.lossOn (torch : Torch W O B K) (weights : W) (batch : B) : ExtFloat K :=
  -- The target of the reconstruction is the batch itself.
  torch.mseLoss (torch.reconstruct weights batch) batch

/-- A model while it is trained, and the batches that are left for it. -/
structure Learning (W O B : Type) where
  /-- The weights of the model. -/
  weights : W
  /-- The state of the optimizer. -/
  optimizer : O
  /-- The batches to train on. -/
  trainBatches : Batches B
  /-- The batches to evaluate on. -/
  valBatches : Batches B

/-- What the log says about an epoch. -/
structure EpochRecord (K : Type) where
  /-- The number of the epoch, counted from one. -/
  epoch : Nat
  /-- The mean loss while training. -/
  trainLoss : ExtFloat K
  /-- The mean loss of the evaluation. -/
  valLoss : ExtFloat K

/-- Training that is under way. -/
structure Progress (W O B K : Type) where
  /-- The model and its batches. -/
  learning : Learning W O B
  /-- The best loss so far. -/
  bestVal : ExtFloat K
  /-- How many epochs without an improvement there is patience for. -/
  patienceLeft : Int
  /-- What the log says about the epochs so far. -/
  history : List (EpochRecord K)

section Passes

variable [Field K] [LinearOrder K]

/-- The mean of losses with a given sum, which is the sum itself when there are none. -/
def meanLoss (totalLoss : ExtFloat K) (count : Nat) : ExtFloat K :=
  -- Without batches the sum is divided by one.
  totalLoss * .finite ((max count 1 : Nat) : K)⁻¹

/-- Sum and number of losses, the weights and the optimizer's state while training on some batches. -/
structure TrainingPass (W O K : Type) where
  /-- The sum of the losses. -/
  totalLoss : ExtFloat K
  /-- The number of batches. -/
  count : Nat
  /-- The weights. -/
  weights : W
  /-- The state of the optimizer. -/
  optimizer : O

/-- Train on one batch; its loss is that of the weights before the step. -/
def trainBatch (torch : Torch W O B K) (pass : TrainingPass W O K) (batch : B) : TrainingPass W O K :=
  -- The loss is taken before the step, with the weights that the batch has met.
  let loss := torch.lossOn pass.weights batch
  let (weights, optimizer) := torch.optimizerStep pass.weights pass.optimizer batch
  ⟨pass.totalLoss + loss, pass.count + 1, weights, optimizer⟩

/-- Train for one epoch: the mean loss and what has become of the model. -/
def epochLoss (torch : Torch W O B K) (learning : Learning W O B) : ExtFloat K × Learning W O B :=
  -- The loop goes through whatever the training batches yield.
  let (batches, trainBatches) := learning.trainBatches.iterate
  let pass := batches.foldl (trainBatch torch) ⟨0.0, 0, learning.weights, learning.optimizer⟩
  (meanLoss pass.totalLoss pass.count,
    { learning with weights := pass.weights, optimizer := pass.optimizer, trainBatches })

/-- The mean loss of weights on some batches, without training. -/
def evalLossOn (torch : Torch W O B K) (weights : W) (batches : List B) : ExtFloat K :=
  -- The weights are the same for all batches.
  let (totalLoss, count) := batches.foldl
    (fun sofar batch => (sofar.1 + torch.lossOn weights batch, sofar.2 + 1)) (0.0, 0)
  meanLoss totalLoss count

/-- Evaluate the model: the mean loss and what is left of the batches. -/
def evalLoss (torch : Torch W O B K) (learning : Learning W O B) : ExtFloat K × Learning W O B :=
  -- Evaluating uses up an iterator, too.
  let (batches, valBatches) := learning.valBatches.iterate
  (evalLossOn torch learning.weights batches, { learning with valBatches })

/-! ### Epochs -/

/-- Run one epoch, and say whether training stops after it. -/
def runEpoch (torch : Torch W O B K) (patience : Int) (epoch : Nat) (progress : Progress W O B K) :
    Progress W O B K × Bool :=
  -- An improvement restores the patience, and anything else takes one from it.
  let (trainLoss, trained) := epochLoss torch progress.learning
  let (valLoss, learning) := evalLoss torch trained
  let history := progress.history ++ [⟨epoch + 1, trainLoss, valLoss⟩]
  if valLoss < progress.bestVal then (⟨learning, valLoss, patience, history⟩, false)
  else
    let patienceLeft := progress.patienceLeft - 1
    (⟨learning, progress.bestVal, patienceLeft, history⟩, patienceLeft ≤ 0)

/-- The arguments of `train_autoencoder`, and what the clock says at the end. -/
structure TrainCall (W B K : Type) [Field K] where
  /-- The weights of the model. -/
  model : W
  /-- The batches to train on. -/
  trainBatches : Batches B
  /-- The batches to evaluate on. -/
  valBatches : Batches B
  /-- The most epochs to run. -/
  epochs : Int := 100
  /-- The learning rate. -/
  learningRate : ExtFloat K := 1e-3
  /-- How many epochs in a row may bring no improvement. -/
  patience : Int := 10
  /-- The path to save the model under, if it is saved. -/
  savePath : Option String := none
  /-- The time at which training ended, as a text. -/
  trainedAt : String
  /-- The time at which the metadata are written, as a text. -/
  savedAt : String

/-- Training that has not begun. -/
def TrainCall.start (call : TrainCall W B K) (optimizer : O) : Progress W O B K :=
  -- Every loss that is a number is below the first best one.
  ⟨⟨call.model, optimizer, call.trainBatches, call.valBatches⟩, .infinity, call.patience, []⟩

/-- Run the epochs until there are no more or training stops early. -/
def runEpochs (torch : Torch W O B K) (call : TrainCall W B K) (optimizer : O) : Progress W O B K :=
  -- A call for no epochs or fewer runs none.
  forRange (runEpoch torch call.patience) call.epochs.toNat 0 (call.start optimizer)

/-- What is saved of training that has ended: the weights as they are, with the best loss. -/
def checkpoint (call : TrainCall W B K) (progress : Progress W O B K) (savePath : String) :
    SaveCall W (Json (ExtFloat K)) where
  -- The weights are those at the end, and the loss is the best one.
  model := progress.learning.weights
  path := .ofText savePath
  metadata := .ofList [("val_loss", .float progress.bestVal), ("trained_at", .str call.trainedAt)]
  savedAt := call.savedAt

/-- Save a checkpoint if there is a path for it. -/
def saveCheckpoint (formats : Formats W (Json (ExtFloat K)) C) (host : Host) (call : TrainCall W B K)
    (progress : Progress W O B K) : Session RegistryError C Unit :=
  -- Without a path nothing is saved.
  match call.savePath with
  | none => pure ()
  | some savePath => saveModel formats host (checkpoint call progress savePath)

/-- Train an autoencoder and return the best loss. -/
def trainAutoencoder (torch : Torch W O B K) (formats : Formats W (Json (ExtFloat K)) C) (host : Host)
    (call : TrainCall W B K) : Session RegistryError C (ExtFloat K) := do
  -- Whatever the saving raises is raised, and the trained model is lost.
  let optimizer ← Session.ofExcept (torch.adam call.model call.learningRate)
  let progress := runEpochs torch call optimizer
  saveCheckpoint formats host call progress
  return progress.bestVal

end Passes
end Absm
