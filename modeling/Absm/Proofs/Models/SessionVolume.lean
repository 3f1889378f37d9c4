import Mathlib.Algebra.Order.Archimedean.Basic
import Mathlib.Tactic.FieldSimp
import Absm.Proofs.Models.EnsembleRanking
import Absm.Proofs.Models.TokenLikelihood

/-! How the score of a user changes with the number of sessions. -/

namespace Absm

variable {K : Type} [Field K]

/-! ### Batches and their rows -/

/-- The rows of a batch are scored as each of them alone. -/
theorem SessionLSTM.gathered_iff (model : SessionLSTM K) {rows : List (List Int)}
    (long : ∀ row ∈ rows, 2 ≤ row.length) (each : List K) :
    (∃ logProbs, rows.mapM (fun row => model.forward row.dropLast) = .ok logProbs ∧
      ∃ gathered, ((logProbs.zip rows).mapM fun pair =>
        (pair.1.zip pair.2.tail).mapM fun step => model.gather step.1 step.2) = .ok gathered ∧
        gathered.map List.sum = each) ↔
      rows.mapM (fun row => model.sequenceLogLikelihood (.flat row)) = .ok each := by
  -- All rows are read before the first is gathered, but neither depends on the other rows.
  induction rows generalizing each with
  | nil =>
    constructor
    · rintro ⟨_, read, _, picked, rfl⟩
      cases read
      cases picked
      rfl
    · intro returned
      cases returned
      exact ⟨[], rfl, [], rfl, rfl⟩
  | cons row rows ih =>
    obtain ⟨two, long⟩ := List.forall_mem_cons.mp long
    constructor
    · rintro ⟨_, read, _, picked, rfl⟩
      obtain ⟨logProbs, others, forwarded, rest, rfl⟩ := mapM_cons_eq_ok.mp read
      rw [List.zip_cons_cons] at picked
      obtain ⟨steps, gathered, first, remaining, rfl⟩ := mapM_cons_eq_ok.mp picked
      exact mapM_cons_eq_ok.mpr ⟨steps.sum, gathered.map List.sum,
        (sequenceLogLikelihood_flat two _).mpr ⟨logProbs, forwarded, steps, first, rfl⟩,
        (ih long _).mp ⟨others, rest, gathered, remaining, rfl⟩, rfl⟩
    · intro returned
      obtain ⟨likelihood, likelihoods, first, rest, rfl⟩ := mapM_cons_eq_ok.mp returned
      obtain ⟨logProbs, forwarded, steps, picked, rfl⟩ := (sequenceLogLikelihood_flat two _).mp first
      obtain ⟨others, read, gathered, remaining, rfl⟩ := (ih long _).mpr rest
      exact ⟨logProbs :: others, mapM_cons_eq_ok.mpr ⟨_, _, forwarded, read, rfl⟩, steps :: gathered,
        mapM_cons_eq_ok.mpr ⟨_, _, picked, remaining, rfl⟩, rfl⟩

/-- The likelihood of a batch is the sum of those of its rows. -/
theorem SessionLSTM.sequenceLogLikelihood_batch (model : SessionLSTM K) {sessions : TokenBatch}
    (two : 2 ≤ sessions.width) (total : K) :
    model.sequenceLogLikelihood (.batch sessions) = .ok total ↔
      ∃ each, sessions.rows.mapM (fun row => model.sequenceLogLikelihood (.flat row)) = .ok each ∧
        each.sum = total := by
  -- Both sides read, gather and sum the same numbers, row by row.
  have long : ∀ row ∈ sessions.rows, 2 ≤ row.length := fun row member =>
    two.trans (sessions.rectangular row member).ge
  rw [sequenceLogLikelihood_eq_ok model (.batch sessions) two]
  simp only [← gathered_iff model long]
  constructor
  · rintro ⟨logProbs, read, gathered, picked, sum⟩
    exact ⟨_, ⟨logProbs, read, gathered, picked, rfl⟩, sum⟩
  · rintro ⟨_, ⟨logProbs, read, gathered, picked, rfl⟩, sum⟩
    exact ⟨logProbs, read, gathered, picked, sum⟩

/-! ### More sessions -/

/-- Some sessions, and copies of a further one behind them. -/
def TokenBatch.withCopies (sessions : TokenBatch) (session : List Int)
    (fits : session.length = sessions.width) (count : Nat) : TokenBatch where
  -- The copies are put last.
  width := sessions.width
  rows := sessions.rows ++ List.replicate count session
  rectangular := by
    intro row member
    rcases List.mem_append.mp member with before | copy
    · exact sessions.rectangular row before
    · rw [List.eq_of_mem_replicate copy, fits]

/-- Each copy adds its likelihood once more. -/
theorem SessionLSTM.sequenceLogLikelihood_withCopies {model : SessionLSTM K} {sessions : TokenBatch}
    (two : 2 ≤ sessions.width) {session : List Int} (fits : session.length = sessions.width) {total each : K}
    (scored : model.sequenceLogLikelihood (.batch sessions) = .ok total)
    (read : model.sequenceLogLikelihood (.flat session) = .ok each) (count : Nat) :
    model.sequenceLogLikelihood (.batch (sessions.withCopies session fits count)) =
      .ok (total + count * each) := by
  -- Each copy adds its likelihood once more.
  obtain ⟨likelihoods, returned, sum⟩ := (sequenceLogLikelihood_batch model two total).mp scored
  have copies : (List.replicate count session).mapM (fun row => model.sequenceLogLikelihood (.flat row)) =
      .ok (List.replicate count each) := by
    have same (row : List Int) (copy : row ∈ List.replicate count session) :
        model.sequenceLogLikelihood (.flat row) = .ok each := by
      rw [List.eq_of_mem_replicate copy, read]
    rw [mapM_eq_map (g := fun _ => each) same, List.map_replicate]
  have wide : 2 ≤ (sessions.withCopies session fits count).width := two
  refine (sequenceLogLikelihood_batch model wide _).mpr ⟨likelihoods ++ List.replicate count each, ?_, ?_⟩
  · rw [TokenBatch.withCopies, List.mapM_append, returned, ok_bind, copies]
    rfl
  · rw [List.sum_append, sum, List.sum_replicate, nsmul_eq_mul]

variable [LinearOrder K]

/-- Each copy moves the blend by the same amount, and the reconstruction error not at all. -/
theorem EnsembleScorer.score_withCopies {scorer : EnsembleScorer K} {featureVec : FeatureBatch K}
    {sessions : TokenBatch} (two : 2 ≤ sessions.width) {session : List Int}
    (fits : session.length = sessions.width) {score : EnsembleScore K} {each : K}
    (scored : scorer.score featureVec (.batch sessions) = .ok score)
    (read : scorer.lstm.sequenceLogLikelihood (.flat session) = .ok each) (count : Nat) :
    scorer.score featureVec (.batch (sessions.withCopies session fits count)) =
      .ok ⟨score.aeScore, score.lstmScore + count * each, score.combinedScore +
        count * (each * scorer.lstmWeight / (scorer.aeWeight + scorer.lstmWeight))⟩ := by
  obtain ⟨likelihood, whole, rfl⟩ := (score_eq_ok ..).mp scored
  refine (score_eq_ok ..).mpr ⟨_, SessionLSTM.sequenceLogLikelihood_withCopies two fits whole read count, ?_⟩
  rw [EnsembleScore.mk.injEq]
  refine ⟨rfl, rfl, ?_⟩
  -- The weights are divided out of each copy alone.
  have total : scorer.aeWeight + scorer.lstmWeight ≠ 0 := scorer.total
  field_simp
  ring

variable [IsStrictOrderedRing K] [Archimedean K]

/-- Sessions that are not certain lower the score without bound: however anomalous a user's behaviour and
sessions are, and whichever further session is repeated often enough, the blend falls below any threshold. -/
theorem EnsembleScorer.score_outvoted {scorer : EnsembleScorer K} (counts : 0 < scorer.lstmWeight)
    {featureVec : FeatureBatch K} {sessions : TokenBatch} (two : 2 ≤ sessions.width) {session : List Int}
    (fits : session.length = sessions.width) {score : EnsembleScore K} {each : K}
    (scored : scorer.score featureVec (.batch sessions) = .ok score)
    (read : scorer.lstm.sequenceLogLikelihood (.flat session) = .ok each) (uncertain : each < 0) (threshold : K) :
    ∃ enough : Nat, ∀ count, enough ≤ count → ∃ lowered,
      scorer.score featureVec (.batch (sessions.withCopies session fits count)) = .ok lowered ∧
        lowered.aeScore = score.aeScore ∧ lowered.combinedScore < threshold := by
  have down : each * scorer.lstmWeight / (scorer.aeWeight + scorer.lstmWeight) < 0 :=
    div_neg_of_neg_of_pos (mul_neg_of_neg_of_pos uncertain counts) scorer.total_pos
  generalize moved : each * scorer.lstmWeight / (scorer.aeWeight + scorer.lstmWeight) = step at down
  obtain ⟨enough, far⟩ := exists_nat_gt ((score.combinedScore - threshold) / -step)
  refine ⟨enough, fun count more => ⟨_, score_withCopies two fits scored read count, rfl, ?_⟩⟩
  -- Each further copy goes at least as far down.
  rw [div_lt_iff₀ (neg_pos.mpr down)] at far
  have further : (enough : K) * -step ≤ count * -step :=
    mul_le_mul_of_nonneg_right (Nat.cast_le.mpr more) (neg_pos.mpr down).le
  simp only [moved]
  linarith

/-- The critical score of one session falls below the lowest tier as unlikely sessions are repeated. -/
theorem EnsembleScorer.score_outvoted_biased :
    ∃ enough : Nat, ∀ count, enough ≤ count → ∃ lowered,
      biasedScorer.score (constantFeatures 1.6)
        (.batch ((⟨2, [[0, 1]], by simp⟩ : TokenBatch).withCopies [0, 0] rfl count)) = .ok lowered ∧
        lowered.aeScore = 2.56 ∧ lowered.combinedScore < 0.4 :=
  -- One likely session, and copies of an unlikely one.
  have likely : biasedLSTM.sequenceLogLikelihood (.batch ⟨2, [[0, 1]], by simp⟩) = .ok (2 - biasedNorm) :=
    biasedLSTM_likely
  score_outvoted (by norm_num [biasedScorer]) le_rfl rfl (biasedScorer_score likely) biasedLSTM_unlikely
    (by linarith [biasedNorm_bounds.1]) 0.4

end Absm
