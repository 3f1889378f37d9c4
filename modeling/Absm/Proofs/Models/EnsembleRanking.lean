import Mathlib.Analysis.Complex.ExponentialBounds
import Mathlib.Data.Real.Basic
import Absm.Alerts.AlertBuilder
import Absm.Models.Ensemble

/-! The blend ranks sequences against the direction in which they are anomalous. -/

namespace Absm

variable {K : Type} [Field K] [LinearOrder K]

/-! ### The parts of a score -/

/-- A blend is made of the two components of the same call. -/
theorem EnsembleScorer.score_eq_ok (scorer : EnsembleScorer K) (featureVec : FeatureBatch K)
    (eventSeq : TokenTensor) (result : EnsembleScore K) :
    scorer.score featureVec eventSeq = .ok result ↔
      ∃ likelihood, scorer.lstm.sequenceLogLikelihood eventSeq = .ok likelihood ∧
        result = ⟨scorer.autoencoder.anomalyScore featureVec, likelihood,
          (scorer.autoencoder.anomalyScore featureVec * scorer.aeWeight +
            likelihood * scorer.lstmWeight) / (scorer.aeWeight + scorer.lstmWeight)⟩ := by
  -- Only the likelihood can raise.
  rw [EnsembleScorer.score, bind_eq_ok]
  constructor
  · rintro ⟨likelihood, read, returned⟩
    cases returned
    exact ⟨likelihood, read, rfl⟩
  · rintro ⟨likelihood, read, rfl⟩
    exact ⟨likelihood, read, rfl⟩

section Ordered

variable [IsStrictOrderedRing K]

/-- The weights of a scorer sum to something positive. -/
theorem EnsembleScorer.total_pos (scorer : EnsembleScorer K) :
    0 < scorer.aeWeight + scorer.lstmWeight :=
  -- Neither is negative, and the sum is not zero.
  lt_of_le_of_ne (add_nonneg scorer.nonNegative.1 scorer.nonNegative.2) scorer.total.symm

/-- A blend grows with the likelihood as soon as the likelihood counts at all. -/
theorem EnsembleScorer.score_lt {scorer : EnsembleScorer K} {featureVec : FeatureBatch K}
    {unlikely likely : TokenTensor} {lower higher : K}
    (lowerRead : scorer.lstm.sequenceLogLikelihood unlikely = .ok lower)
    (higherRead : scorer.lstm.sequenceLogLikelihood likely = .ok higher) (less : lower < higher)
    {first second : EnsembleScore K} (firstScored : scorer.score featureVec unlikely = .ok first)
    (secondScored : scorer.score featureVec likely = .ok second)
    (counts : scorer.lstmWeight ≠ 0) : first.combinedScore < second.combinedScore := by
  -- Both blends share everything but the likelihood, which enters with a positive weight.
  obtain ⟨likelihood, read, rfl⟩ := (score_eq_ok ..).mp firstScored
  obtain rfl : likelihood = lower := Except.ok.inj (read.symm.trans lowerRead)
  obtain ⟨likelihood', read', rfl⟩ := (score_eq_ok ..).mp secondScored
  obtain rfl : likelihood' = higher := Except.ok.inj (read'.symm.trans higherRead)
  have weight : 0 < scorer.lstmWeight := lt_of_le_of_ne scorer.nonNegative.2 counts.symm
  have grows := mul_lt_mul_of_pos_right less weight
  exact div_lt_div_of_pos_right (by linarith) scorer.total_pos

omit [IsStrictOrderedRing K] in
/-- A blend without the likelihood is the same for all sequences. -/
theorem EnsembleScorer.score_eq {scorer : EnsembleScorer K} {featureVec : FeatureBatch K}
    {unlikely likely : TokenTensor} {first second : EnsembleScore K}
    (firstScored : scorer.score featureVec unlikely = .ok first)
    (secondScored : scorer.score featureVec likely = .ok second)
    (ignored : scorer.lstmWeight = 0) : first.combinedScore = second.combinedScore := by
  -- The likelihoods are multiplied by zero.
  obtain ⟨_, _, rfl⟩ := (score_eq_ok ..).mp firstScored
  obtain ⟨_, _, rfl⟩ := (score_eq_ok ..).mp secondScored
  simp only [ignored, mul_zero]

/-- The sequence scorer alone gives the less likely sequence the higher score. -/
theorem scoreSequence_lt {model : SessionLSTM K} {unlikely likely : TokenTensor} {lower higher : K}
    (lowerRead : model.sequenceLogLikelihood unlikely = .ok lower)
    (higherRead : model.sequenceLogLikelihood likely = .ok higher) (less : lower < higher)
    (baselineLl : K) {baselineStd : K} (positive : 0 < baselineStd) :
    ∃ first second, scoreSequence unlikely model baselineLl baselineStd = .ok first ∧
      scoreSequence likely model baselineLl baselineStd = .ok second ∧ second < first := by
  -- Here the likelihood is subtracted from the baseline.
  refine ⟨(baselineLl - lower) / baselineStd, (baselineLl - higher) / baselineStd, ?_, ?_, ?_⟩
  · simp [scoreSequence, not_le.mpr positive, lowerRead]
  · simp [scoreSequence, not_le.mpr positive, higherRead]
  · exact div_lt_div_of_pos_right (by linarith) positive

omit [IsStrictOrderedRing K] in
/-- A higher score is never of a lower tier. -/
theorem severityFromScore_mono {lower higher : K} (ordered : lower ≤ higher) :
    severityFromScore lower ≤ severityFromScore higher := by
  -- Each threshold that the lower score exceeds is exceeded by the higher one.
  by_cases critical : higher > 0.8
  · rw [severityFromScore, severityFromScore, if_pos critical]
    split_ifs <;> decide
  by_cases high : higher > 0.6
  · have belowCritical : ¬ lower > 0.8 := fun above => critical (lt_of_lt_of_le above ordered)
    rw [severityFromScore, severityFromScore, if_neg belowCritical, if_neg critical, if_pos high]
    split_ifs <;> decide
  have belowHigh : ¬ lower > 0.6 := fun above => high (lt_of_lt_of_le above ordered)
  have belowCritical : ¬ lower > 0.8 := fun above => critical (lt_of_lt_of_le above ordered)
  rw [severityFromScore, severityFromScore, if_neg belowCritical, if_neg critical,
    if_neg belowHigh, if_neg high]
  by_cases medium : higher > 0.4
  · rw [if_pos medium]
    split_ifs <;> decide
  · have belowMedium : ¬ lower > 0.4 := fun above => medium (lt_of_lt_of_le above ordered)
    rw [if_neg medium, if_neg belowMedium]
    decide

end Ordered

/-! ### Ranking -/

/-- The less likely sequence gets no lower score, and no alert about it is of a lower tier. -/
def RanksAnomalies (scorer : EnsembleScorer K) (featureVec : FeatureBatch K)
    (unlikely likely : TokenTensor) : Prop :=
  -- Both scores are compared, and so is every alert made of them.
  ∃ first second, scorer.score featureVec unlikely = .ok first ∧
    scorer.score featureVec likely = .ok second ∧ second.combinedScore ≤ first.combinedScore ∧
    ∀ (alertId otherId : Uuid) (explanation : Explanation K) (peerContext : PeerContext K)
      (userId : String),
      (buildAlert otherId second.combinedScore explanation peerContext userId).severity ≤
        (buildAlert alertId first.combinedScore explanation peerContext userId).severity

/-- A constructed scorer ranks two sequences by anomaly exactly when it ignores the likelihood. -/
theorem ranksAnomalies_iff [IsStrictOrderedRing K] (autoencoder : BehaviorAutoencoder K)
    (lstm : SessionLSTM K) (aeWeight lstmWeight : K) (scorer : EnsembleScorer K)
    (constructed : EnsembleScorer.init autoencoder lstm aeWeight lstmWeight = .ok scorer)
    (featureVec : FeatureBatch K) (unlikely likely : TokenTensor) (lower higher : K)
    (lowerRead : lstm.sequenceLogLikelihood unlikely = .ok lower)
    (higherRead : lstm.sequenceLogLikelihood likely = .ok higher) (less : lower < higher) :
    RanksAnomalies scorer featureVec unlikely likely ↔ lstmWeight = 0 := by
  -- The constructor keeps the model and the weight it is given.
  have kept : scorer.lstm = lstm ∧ scorer.lstmWeight = lstmWeight := by
    unfold EnsembleScorer.init at constructed
    split at constructed
    · cases constructed
    split at constructed
    · cases constructed
    · cases constructed
      exact ⟨rfl, rfl⟩
  rw [← kept.1] at lowerRead higherRead
  rw [← kept.2]
  constructor
  · -- A likelihood that counts lifts the likely sequence above the unlikely one.
    rintro ⟨first, second, firstScored, secondScored, ordered, _⟩
    by_contra counts
    exact absurd ordered (not_le.mpr (EnsembleScorer.score_lt lowerRead higherRead less
      firstScored secondScored counts))
  · intro ignored
    have firstScored := (EnsembleScorer.score_eq_ok scorer featureVec unlikely _).mpr
      ⟨lower, lowerRead, rfl⟩
    have secondScored := (EnsembleScorer.score_eq_ok scorer featureVec likely _).mpr
      ⟨higher, higherRead, rfl⟩
    have same := EnsembleScorer.score_eq firstScored secondScored ignored
    exact ⟨_, _, firstScored, secondScored, same.ge, fun _ _ _ _ _ =>
      severityFromScore_mono same.ge⟩

/-! ### A scorer that ranks backwards -/

/-- A layer whose outputs are fixed. -/
def constantLayer {inputs outputs : Nat} (bias : Fin outputs → K) : Linear K inputs outputs :=
  -- The weights are zero, so the input does not matter.
  ⟨fun _ _ => 0, bias⟩

omit [LinearOrder K] in
/-- The outputs of such a layer. -/
@[simp] theorem constantLayer_forward {inputs outputs : Nat} (bias : Fin outputs → K)
    (x : Fin inputs → K) : (constantLayer bias).forward x = bias := by
  -- All weights are zero, so only the bias is left.
  funext output
  simp [constantLayer, Linear.forward]

/-- The reconstruction model whose parameters are all zero. -/
def zeroAutoencoder : BehaviorAutoencoder K :=
  -- It reconstructs zeros.
  ⟨constantLayer 0, constantLayer 0, constantLayer 0, constantLayer 0⟩

/-- The logarithms of the shares of the exponentials. -/
noncomputable def logSoftmax {size : Nat} (logits : Fin size → ℝ) : Fin size → ℝ :=
  -- Logits less the logarithm of their sum of exponentials.
  fun token => logits token - Real.log (∑ other, Real.exp (logits other))

/-- The sequence model of two tokens whose parameters are zero but for the bias of the second. -/
noncomputable def biasedLSTM : SessionLSTM ℝ where
  -- The state stays zero, so the bias of the last layer decides.
  vocabSize := 2
  embeddingDim := 16
  hiddenSize := 64
  embedding := fun _ _ => 0
  lstm := fun embedded => embedded.map fun _ _ => 0
  projection := constantLayer ![0, 2]
  logSoftmax := logSoftmax
  lstm_length := fun embedded => by simp

/-- The logarithm that normalises the logits of the biased model. -/
noncomputable def biasedNorm : ℝ :=
  -- The normaliser of the logits 0 and 2.
  Real.log (1 + Real.exp 2)

/-- The normalising logarithm lies between two and the logarithm of two beyond it. -/
theorem biasedNorm_bounds : 2 < biasedNorm ∧ biasedNorm < 2.7 := by
  -- One more than an exponential lies between it and its double.
  have grows : 1 ≤ Real.exp 2 := Real.one_le_exp (by norm_num)
  constructor
  · rw [biasedNorm, Real.lt_log_iff_exp_lt (by linarith)]
    linarith
  · have doubled : biasedNorm ≤ Real.log (2 * Real.exp 2) :=
      Real.log_le_log (by linarith) (by linarith)
    rw [Real.log_mul (by norm_num) (Real.exp_pos 2).ne', Real.log_exp] at doubled
    linarith [Real.log_two_lt_d9]

/-- The biased model finds the first token unlikely. -/
theorem biasedLSTM_unlikely :
    biasedLSTM.sequenceLogLikelihood (.flat [0, 0]) = .ok (-biasedNorm) := by
  -- The next token is the one without a bias.
  simp [SessionLSTM.sequenceLogLikelihood, TokenTensor.unsqueeze, SessionLSTM.forward,
    SessionLSTM.embed, SessionLSTM.gather, biasedLSTM, logSoftmax, biasedNorm, Fin.sum_univ_two]

/-- The biased model finds the second token likely. -/
theorem biasedLSTM_likely :
    biasedLSTM.sequenceLogLikelihood (.flat [0, 1]) = .ok (2 - biasedNorm) := by
  -- The next token is the one that the bias favours.
  simp [SessionLSTM.sequenceLogLikelihood, TokenTensor.unsqueeze, SessionLSTM.forward,
    SessionLSTM.embed, SessionLSTM.gather, biasedLSTM, logSoftmax, biasedNorm, Fin.sum_univ_two]

/-- Both models with equal weights, as they are by default. -/
noncomputable def biasedScorer : EnsembleScorer ℝ :=
  -- Both parts count the same.
  ⟨zeroAutoencoder, biasedLSTM, 1 / 2, 1 / 2, by norm_num, by norm_num⟩

/-- The constructor accepts the equal weights. -/
theorem biasedScorer_constructed :
    EnsembleScorer.init zeroAutoencoder biasedLSTM (1 / 2) (1 / 2) = .ok biasedScorer := by
  -- Neither check of the constructor fails.
  rw [EnsembleScorer.init, dif_neg (by norm_num), dif_neg (by norm_num)]
  rfl

/-- One behaviour vector with the same value everywhere. -/
def constantFeatures (value : K) : FeatureBatch K :=
  -- A batch of one row.
  ⟨[fun _ => value], by simp⟩

/-- All-zero parameters reconstruct nothing, so the error is the square of the value. -/
theorem zeroAutoencoder_anomalyScore (value : ℝ) :
    zeroAutoencoder.anomalyScore (constantFeatures value) = value ^ 2 := by
  -- The reconstruction is zero, so every entry contributes its square.
  simp [BehaviorAutoencoder.anomalyScore, BehaviorAutoencoder.forward, zeroAutoencoder,
    constantFeatures]

/-- With equal weights the two sequences are ranked as the law says. -/
theorem ranksAnomalies_iff_biased :
    RanksAnomalies biasedScorer (constantFeatures 1.6) (.flat [0, 0]) (.flat [0, 1]) ↔
      (1 / 2 : ℝ) = 0 :=
  -- The likelihoods differ by two.
  ranksAnomalies_iff zeroAutoencoder biasedLSTM (1 / 2) (1 / 2) biasedScorer
    biasedScorer_constructed (constantFeatures 1.6) (.flat [0, 0]) (.flat [0, 1]) (-biasedNorm)
    (2 - biasedNorm) biasedLSTM_unlikely biasedLSTM_likely (by linarith)

/-- The blend of the reconstruction error 2.56 and a likelihood is their average. -/
theorem biasedScorer_score {eventSeq : TokenTensor} {likelihood : ℝ}
    (read : biasedLSTM.sequenceLogLikelihood eventSeq = .ok likelihood) :
    biasedScorer.score (constantFeatures 1.6) eventSeq =
      .ok ⟨2.56, likelihood, (2.56 + likelihood) / 2⟩ := by
  -- Halves are taken of both components.
  have error : biasedScorer.autoencoder.anomalyScore (constantFeatures 1.6) = 2.56 :=
    (zeroAutoencoder_anomalyScore 1.6).trans (by norm_num)
  refine (EnsembleScorer.score_eq_ok ..).mpr ⟨likelihood, read, ?_⟩
  rw [error, EnsembleScore.mk.injEq]
  refine ⟨rfl, rfl, ?_⟩
  simp only [biasedScorer]
  ring

/-- The unlikely sequence is of low severity where the likely one is critical. -/
theorem ranksAnomalies_backwards :
    EnsembleScorer.init zeroAutoencoder biasedLSTM (1 / 2) (1 / 2) = .ok biasedScorer ∧
      (∃ lower higher, biasedLSTM.sequenceLogLikelihood (.flat [0, 0]) = .ok lower ∧
        biasedLSTM.sequenceLogLikelihood (.flat [0, 1]) = .ok higher ∧ lower < higher) ∧
      (∃ first second, biasedScorer.score (constantFeatures 1.6) (.flat [0, 0]) = .ok first ∧
        biasedScorer.score (constantFeatures 1.6) (.flat [0, 1]) = .ok second ∧
        severityFromScore first.combinedScore = .low ∧
        severityFromScore second.combinedScore = .critical) ∧
      ¬ RanksAnomalies biasedScorer (constantFeatures 1.6) (.flat [0, 0]) (.flat [0, 1]) := by
  -- The two blends differ by one, which is more than all thresholds span.
  have firstScored := biasedScorer_score biasedLSTM_unlikely
  have secondScored := biasedScorer_score biasedLSTM_likely
  obtain ⟨above, below⟩ := biasedNorm_bounds
  refine ⟨biasedScorer_constructed, ⟨_, _, biasedLSTM_unlikely, biasedLSTM_likely, by linarith⟩,
    ⟨_, _, firstScored, secondScored, ?_, ?_⟩, ?_⟩
  · -- The average of 2.56 and a likelihood below minus two stays under the lowest threshold.
    have small : (2.56 + -biasedNorm) / 2 ≤ (0.4 : ℝ) := by norm_num; linarith
    rw [severityFromScore, if_neg (by linarith), if_neg (by linarith), if_neg (by linarith)]
  · have large : (2.56 + (2 - biasedNorm)) / 2 > (0.8 : ℝ) := by norm_num; linarith
    rw [severityFromScore, if_pos large]
  · rintro ⟨first, second, firstRead, secondRead, ordered, _⟩
    exact absurd ordered (not_le.mpr (EnsembleScorer.score_lt biasedLSTM_unlikely
      biasedLSTM_likely (by linarith) firstRead secondRead (by norm_num [biasedScorer])))

end Absm
