import Absm.Proofs.Models.EnsembleRanking
import Absm.Proofs.Models.FalsePositives

/-! What a threshold that is calibrated on scores of sequences says about another sequence. -/

namespace Absm

variable {K : Type} [Field K] [LinearOrder K] {model : SessionLSTM K} {baselineLl baselineStd : K}

/-- With a positive deviation, a score is made of each likelihood. -/
theorem scoreSequence_eq (positive : 0 < baselineStd) (seq : TokenTensor) :
    scoreSequence seq model baselineLl baselineStd =
      (model.sequenceLogLikelihood seq).map fun likelihood => (baselineLl - likelihood) / baselineStd := by
  -- With a positive deviation the guard is passed.
  rw [scoreSequence, if_neg (not_le.mpr positive)]
  rfl

/-- The scores of some sequences are made of their likelihoods. -/
theorem mapM_scoreSequence (positive : 0 < baselineStd) {validation : List TokenTensor} {likelihoods : List K}
    (read : validation.mapM model.sequenceLogLikelihood = .ok likelihoods) :
    validation.mapM (fun seq => scoreSequence seq model baselineLl baselineStd) =
      .ok (likelihoods.map fun likelihood => (baselineLl - likelihood) / baselineStd) := by
  -- The reads succeed, so the scores do.
  simp only [scoreSequence_eq positive]
  exact mapM_map_of_mapM read _

variable [IsStrictOrderedRing K] [FloorRing K]

/-- Whatever the baseline, a sequence scores above the threshold that is calibrated on the scores of some
others exactly if more of these are likelier than the target leaves out. -/
theorem exceeds_calibrated_iff (positive : 0 < baselineStd) {validation : List TokenTensor}
    (nonempty : validation ≠ []) {fprTarget : K} (inside : 0 < fprTarget ∧ fprTarget < 1)
    {likelihoods : List K} (read : validation.mapM model.sequenceLogLikelihood = .ok likelihoods)
    {seq : TokenTensor} {likelihood : K} (seqRead : model.sequenceLogLikelihood seq = .ok likelihood) :
    ∃ scores threshold score,
      validation.mapM (fun other => scoreSequence other model baselineLl baselineStd) = .ok scores ∧
        calibrate scores fprTarget = .ok threshold ∧
        scoreSequence seq model baselineLl baselineStd = .ok score ∧
        (threshold < score ↔ calibratedRank validation.length fprTarget <
          likelihoods.countP fun other => likelihood < other) := by
  have size := length_of_mapM read
  have standardized (first second : K) :
      (baselineLl - second) / baselineStd < (baselineLl - first) / baselineStd ↔ first < second := by
    rw [div_lt_div_iff_of_pos_right positive, sub_lt_sub_iff_left]
  generalize scored : (likelihoods.map fun likelihood => (baselineLl - likelihood) / baselineStd) = scores
  have length : scores.length = validation.length := by rw [← scored, List.length_map, size]
  have filled : 0 < scores.length := length ▸ List.length_pos_iff.mpr nonempty
  have below : calibratedRank scores.length fprTarget < (ascending scores).length := by
    rw [length_ascending]
    exact (calibratedRank_spec filled inside).1
  refine ⟨scores, _, (baselineLl - likelihood) / baselineStd, scored ▸ mapM_scoreSequence positive read,
    calibrate_eq (List.length_pos_iff.mp filled) inside below, ?_, ?_⟩
  · rw [scoreSequence_eq positive, seqRead]
    rfl
  · -- More scores lie below that of the sequence than the position of the threshold.
    rw [ascending_lt_iff _ scores below, ← length, ← scored, List.countP_map]
    simp only [Function.comp_def, standardized]

/-- The unlikely sequence against two likely ones. -/
theorem exceeds_calibrated_iff_unlikely :
    ∃ scores threshold score,
      [TokenTensor.flat [0, 1], .flat [0, 1]].mapM (fun other => scoreSequence other biasedLSTM 0 1) =
          .ok scores ∧
        calibrate scores (1 / 2) = .ok threshold ∧
        scoreSequence (.flat [0, 0]) biasedLSTM 0 1 = .ok score ∧
        (threshold < score ↔ calibratedRank 2 (1 / 2 : ℝ) <
          [2 - biasedNorm, 2 - biasedNorm].countP fun other => -biasedNorm < other) :=
  -- Both validation sequences are likely and the scored one is not.
  exceeds_calibrated_iff one_pos (List.cons_ne_nil _ _) (by norm_num)
    (mapM_cons_eq_ok.mpr ⟨_, _, biasedLSTM_likely, mapM_cons_eq_ok.mpr ⟨_, _, biasedLSTM_likely, rfl, rfl⟩, rfl⟩)
    biasedLSTM_unlikely

end Absm
