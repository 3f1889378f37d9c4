import Mathlib.Algebra.BigOperators.Group.Finset.Basic
import Mathlib.Algebra.Field.Basic
import Mathlib.Data.Fintype.BigOperators
import Mathlib.Order.Defs.LinearOrder
import Absm.Foundation.Python

/-! How likely the sequence model finds the order of a user's events. -/

namespace Absm

variable {K : Type}

/-- A fully connected layer. -/
structure Linear (K : Type) (inputs outputs : Nat) where
  /-- How much each input counts for each output. -/
  weight : Fin outputs → Fin inputs → K
  /-- What every output starts from. -/
  bias : Fin outputs → K

/-- The outputs of a layer. -/
def Linear.forward [Field K] {inputs outputs : Nat} (layer : Linear K inputs outputs)
    (x : Fin inputs → K) : Fin outputs → K :=
  -- Each output has its own row of weights and its bias.
  fun output => ∑ input, layer.weight output input * x input + layer.bias output

/-! ### Token sequences -/

/-- Sequences of event tokens, all of one length. -/
structure TokenBatch where
  /-- The length of every sequence. -/
  width : Nat
  /-- The sequences. -/
  rows : List (List Int)
  /-- No sequence is longer or shorter than the others. -/
  rectangular : ∀ row ∈ rows, row.length = width

/-- A tensor of event tokens: one sequence, or a batch of them. -/
inductive TokenTensor where
  /-- One sequence. -/
  | flat (tokens : List Int)
  /-- A batch. -/
  | batch (sequences : TokenBatch)

/-- The batch that a tensor is treated as: one sequence alone is a batch of one. -/
def TokenTensor.unsqueeze : TokenTensor → TokenBatch
  -- A single sequence becomes a batch of one row.
  | .flat tokens => ⟨tokens.length, [tokens], by simp⟩
  | .batch sequences => sequences

/-! ### The model -/

/-- The next-token model, whose recurrent layers and normalisation are those of the tensor library. -/
structure SessionLSTM (K : Type) where
  /-- How many tokens there are. -/
  vocabSize : Nat
  /-- The length of an embedded token. -/
  embeddingDim : Nat
  /-- The length of a hidden state. -/
  hiddenSize : Nat
  /-- The vector of every token. -/
  embedding : Fin vocabSize → Fin embeddingDim → K
  /-- The recurrent layers, read along one sequence. -/
  lstm : List (Fin embeddingDim → K) → List (Fin hiddenSize → K)
  /-- The layer from hidden states to tokens. -/
  projection : Linear K hiddenSize vocabSize
  /-- The normalisation of the logits of one timestep. -/
  logSoftmax : (Fin vocabSize → K) → Fin vocabSize → K
  /-- The recurrent layers put out one hidden state for each timestep. -/
  lstm_length : ∀ embedded, (lstm embedded).length = embedded.length

namespace SessionLSTM

/-- How many tokens there are by default. -/
def defaultVocabSize : Nat := 32

/-- The vector of one token, which must be part of the vocabulary. -/
def embed (model : SessionLSTM K) (token : Int) : Except PyError (Fin model.embeddingDim → K) :=
  -- A token is a row of the embedding's table.
  if known : 0 ≤ token ∧ token.toNat < model.vocabSize then
    .ok (model.embedding ⟨token.toNat, known.2⟩)
  else .error (.indexError "index out of range in self")

/-- The log-probabilities of the token after each timestep of a sequence. -/
def forward [Field K] (model : SessionLSTM K) (seq : List Int) :
    Except PyError (List (Fin model.vocabSize → K)) := do
  -- The first token without an embedding ends the call; the layers behind it never fail.
  let embedded ← seq.mapM model.embed
  return (model.lstm embedded).map fun hidden => model.logSoftmax (model.projection.forward hidden)

/-- The log-probability of one target. -/
def gather (model : SessionLSTM K) (logProbs : Fin model.vocabSize → K) (target : Int) :
    Except PyError K :=
  -- The target picks one of the logarithms.
  if known : 0 ≤ target ∧ target.toNat < model.vocabSize then
    .ok (logProbs ⟨target.toNat, known.2⟩)
  else .error (.runtimeError
    s!"index {target} is out of bounds for dimension 2 with size {model.vocabSize}")

/-- The log-likelihood of the tokens after the first, summed over a tensor. -/
def sequenceLogLikelihood [Field K] (model : SessionLSTM K) (seq : TokenTensor) :
    Except PyError K := do
  let seq := seq.unsqueeze
  if seq.width < 2 then .error (.valueError "sequence length must be at least 2")
  else do
    -- Every timestep but the last predicts, and every token but the first is predicted.
    let logProbs ← seq.rows.mapM fun row => model.forward row.dropLast
    let gathered ← (logProbs.zip seq.rows).mapM fun pair =>
      (pair.1.zip pair.2.tail).mapM fun step => model.gather step.1 step.2
    return (gathered.map List.sum).sum

end SessionLSTM

/-- How many standard deviations a sequence is less likely than the baseline. -/
def scoreSequence [Field K] [LinearOrder K] (seq : TokenTensor) (model : SessionLSTM K)
    (baselineLl baselineStd : K) : Except PyError K := do
  -- The deviation is checked before the model is asked.
  if baselineStd ≤ 0 then .error (.valueError "baseline_std must be positive")
  else do
    let seqLl ← model.sequenceLogLikelihood seq
    return (baselineLl - seqLl) / baselineStd

end Absm
