import Mathlib.Algebra.Order.Field.Basic
import Absm.Models.SequenceScorer

/-! The blend of reconstruction error and sequence likelihood. -/

namespace Absm

variable {K : Type}

/-! ### Reconstruction -/

/-- The activation between layers. -/
def relu [Field K] [LinearOrder K] {size : Nat} (x : Fin size → K) : Fin size → K :=
  -- Each component is cut off below zero on its own.
  fun index => max (x index) 0

/-- The layers that compress a behaviour vector and rebuild it. -/
structure BehaviorAutoencoder (K : Type) where
  /-- The first layer of the encoder. -/
  encoderInput : Linear K 64 32
  /-- The second layer of the encoder. -/
  encoderOutput : Linear K 32 8
  /-- The first layer of the decoder. -/
  decoderInput : Linear K 8 32
  /-- The second layer of the decoder. -/
  decoderOutput : Linear K 32 64

/-- Behaviour vectors that are scored together, at least one. -/
structure FeatureBatch (K : Type) where
  /-- The vectors. -/
  rows : List (Fin 64 → K)
  /-- There is a vector. -/
  nonempty : rows ≠ []

namespace BehaviorAutoencoder

/-- The reconstruction of a vector and its latent embedding. -/
def forward [Field K] [LinearOrder K] (model : BehaviorAutoencoder K) (x : Fin 64 → K) :
    (Fin 64 → K) × (Fin 8 → K) :=
  -- Both halves have one hidden layer; the latent vector is returned, too.
  let latent := model.encoderOutput.forward (relu (model.encoderInput.forward x))
  let reconstructed := model.decoderOutput.forward (relu (model.decoderInput.forward latent))
  (reconstructed, latent)

/-- The squared error between vectors and their reconstructions, averaged over all entries. -/
def anomalyScore [Field K] [LinearOrder K] (model : BehaviorAutoencoder K) (x : FeatureBatch K) :
    K :=
  -- The mean runs over all entries of the batch at once.
  let errors := x.rows.map fun row => ∑ index, ((model.forward row).1 index - row index) ^ 2
  errors.sum / (x.rows.length * 64 : Nat)

end BehaviorAutoencoder

/-! ### The blend -/

/-- The component scores and their blend. -/
structure EnsembleScore (K : Type) where
  /-- The reconstruction error. -/
  aeScore : K
  /-- The log-likelihood of the sequence. -/
  lstmScore : K
  /-- The weighted blend of both. -/
  combinedScore : K

/-- Both models with weights that can be normalised. -/
structure EnsembleScorer (K : Type) [Field K] [LinearOrder K] where
  /-- The reconstruction model. -/
  autoencoder : BehaviorAutoencoder K
  /-- The sequence model. -/
  lstm : SessionLSTM K
  /-- The weight of the reconstruction error. -/
  aeWeight : K
  /-- The weight of the log-likelihood. -/
  lstmWeight : K
  /-- No weight is negative. -/
  nonNegative : 0 ≤ aeWeight ∧ 0 ≤ lstmWeight
  /-- The weights do not cancel. -/
  total : aeWeight + lstmWeight ≠ 0

namespace EnsembleScorer

variable [Field K] [LinearOrder K]

/-- The constructor, with its checks in order. -/
def init (autoencoder : BehaviorAutoencoder K) (lstm : SessionLSTM K) (aeWeight lstmWeight : K) :
    Except PyError (EnsembleScorer K) :=
  -- Signs are checked before the sum, as in the source.
  if negative : aeWeight < 0 ∨ lstmWeight < 0 then
    .error (.valueError "weights must be non-negative")
  else if total : aeWeight + lstmWeight = 0 then
    .error (.valueError "weights must sum to a positive value")
  else
    .ok ⟨autoencoder, lstm, aeWeight, lstmWeight, by simpa [not_or] using negative, total⟩

/-- The score of a feature batch and an event sequence. -/
def score (scorer : EnsembleScorer K) (featureVec : FeatureBatch K) (eventSeq : TokenTensor) :
    Except PyError (EnsembleScore K) := do
  let aeScore := scorer.autoencoder.anomalyScore featureVec
  let lstmScore ← scorer.lstm.sequenceLogLikelihood eventSeq
  -- The log-likelihood enters with its own sign.
  let combined := (aeScore * scorer.aeWeight + lstmScore * scorer.lstmWeight) /
    (scorer.aeWeight + scorer.lstmWeight)
  return ⟨aeScore, lstmScore, combined⟩

end EnsembleScorer
end Absm
