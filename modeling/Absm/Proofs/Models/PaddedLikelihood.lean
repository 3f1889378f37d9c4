import Mathlib.Algebra.Order.BigOperators.Group.Finset
import Absm.Proofs.Models.EnsembleRanking
import Absm.Proofs.Models.TokenLikelihood

/-! Padding makes a session less likely, since the pads are scored like events. -/

namespace Absm

variable {K : Type} [Field K] [LinearOrder K]

/-! ### The steps that padding adds -/

/-- A sequence that is not too long is padded behind its tokens. -/
theorem padOrTruncate_of_le {tokens : List Int} {maxLen : Nat} (fits : tokens.length ≤ maxLen) :
    padOrTruncate tokens maxLen =
      tokens ++ List.replicate (maxLen - tokens.length) padIndex := by
  -- Nothing is cut off.
  rw [padOrTruncate_eq, List.take_of_length_le fits]

namespace SessionLSTM

/-- A sequence with some pads behind it. -/
def withPads (session : List Int) (pads : Nat) : List Int :=
  -- Zeros at the right end.
  session ++ List.replicate pads padIndex

omit [LinearOrder K] in
/-- A log-probability that is read is one of those that the normalisation puts out. -/
theorem nextLogProb_mem {model : SessionLSTM K} {before : List Int} {next : Int} {logProb : K}
    (read : model.nextLogProb before next = .ok logProb) :
    ∃ logits token, model.logSoftmax logits token = logProb := by
  obtain ⟨logProbs, forwarded, last⟩ := bind_eq_ok.mp read
  obtain ⟨embedded, -, returned⟩ := bind_eq_ok.mp forwarded
  cases returned
  -- The last log-probabilities are those of a hidden state.
  cases final : ((model.lstm embedded).map fun hidden =>
      model.logSoftmax (model.projection.forward hidden)).getLast? with
  | none => simp [final] at last
  | some probs =>
    obtain ⟨hidden, -, rfl⟩ := List.mem_map.mp (List.mem_of_getLast? final)
    simp only [final] at last
    unfold gather at last
    split at last
    · exact ⟨_, _, Except.ok.inj last⟩
    · cases last

omit [LinearOrder K] in
/-- Each pad adds its log-probability to the likelihood of a session. -/
theorem Causal.withPads_steps {model : SessionLSTM K} (causal : model.Causal) {session : List Int}
    (two : 2 ≤ session.length) (known : model.Knows session) :
    ∃ likelihood, ∃ steps : Nat → K,
      (∀ pads, model.nextLogProb (withPads session pads) padIndex = .ok (steps pads)) ∧
      ∀ pads, model.sequenceLogLikelihood (.flat (withPads session pads)) =
        .ok (likelihood + ∑ step ∈ Finset.range pads, steps step) := by
  -- A vocabulary that has a token has the pad.
  have pad : model.Knows [padIndex] := by
    obtain ⟨first, rest, rfl⟩ := List.exists_cons_of_length_pos (by omega : 0 < session.length)
    have inside := known first (List.mem_cons_self ..)
    intro token member
    obtain rfl := List.mem_singleton.mp member
    simp only [padIndex]
    omega
  have padded : ∀ pads, model.Knows (withPads session pads) := by
    intro pads token member
    rcases List.mem_append.mp member with inside | added
    · exact known token inside
    · exact pad token (by simp [List.eq_of_mem_replicate added])
  have long : ∀ pads, 2 ≤ (withPads session pads).length := by
    intro pads
    simp only [withPads, List.length_append]
    omega
  have each : ∀ pads, ∃ logProb, model.nextLogProb (withPads session pads) padIndex = .ok logProb :=
    fun pads => nextLogProb_returns (List.ne_nil_of_length_pos (by have := long pads; omega))
      (padded pads) pad
  choose steps step using each
  obtain ⟨likelihood, scored⟩ := (sequenceLogLikelihood_returns_iff model
    (TokenTensor.flat session).unsqueeze two).mpr (by simpa [TokenTensor.unsqueeze] using known)
  refine ⟨likelihood, steps, step, fun pads => ?_⟩
  induction pads with
  | zero =>
    rw [Finset.sum_range_zero, add_zero, withPads, List.replicate_zero, List.append_nil]
    exact scored
  | succ pads ih =>
    have next := causal.sequenceLogLikelihood_concat (long pads) ih (step pads)
    rw [Finset.sum_range_succ, ← add_assoc, ← next, withPads, withPads, List.append_assoc,
      List.replicate_succ']

variable [IsStrictOrderedRing K]

/-- A session, and the session padded to two lengths, have one likelihood. -/
def SameLikelihood (model : SessionLSTM K) (session : List Int) (first second : Nat) : Prop :=
  -- All three are scored and the scores agree.
  ∃ likelihood, model.sequenceLogLikelihood (.flat session) = .ok likelihood ∧
    model.sequenceLogLikelihood (.flat (padOrTruncate session first)) = .ok likelihood ∧
    model.sequenceLogLikelihood (.flat (padOrTruncate session second)) = .ok likelihood

/-- Padding leaves the likelihood of a session as it is exactly when the model gives every pad the
log-probability zero; a model that is never certain needs sessions that are not padded. -/
theorem sameLikelihood_iff (model : SessionLSTM K) (causal : model.Causal)
    (logProbs : ∀ logits token, model.logSoftmax logits token ≤ 0) (session : List Int)
    (two : 2 ≤ session.length) (known : model.Knows session) (first second : Nat)
    (firstFits : session.length ≤ first) (secondFits : session.length ≤ second) :
    (SameLikelihood model session first second ↔
      ∀ pads < max first second - session.length,
        model.nextLogProb (withPads session pads) padIndex = .ok 0) ∧
    ((∀ logits token, model.logSoftmax logits token < 0) →
      (SameLikelihood model session first second ↔
        first = session.length ∧ second = session.length)) := by
  obtain ⟨likelihood, steps, step, scored⟩ := causal.withPads_steps two known
  have nonpositive : ∀ pads, steps pads ≤ 0 := by
    intro pads
    obtain ⟨logits, token, same⟩ := nextLogProb_mem (step pads)
    exact same ▸ logProbs logits token
  -- The likelihoods differ by sums of steps that cannot cancel.
  have sums : SameLikelihood model session first second ↔
      ∀ pads < max first second - session.length, steps pads = 0 := by
    have bare := scored 0
    have short := scored (first - session.length)
    have other := scored (second - session.length)
    rw [withPads, ← padOrTruncate_of_le firstFits] at short
    rw [withPads, ← padOrTruncate_of_le secondFits] at other
    simp only [withPads, List.replicate_zero, List.append_nil, Finset.sum_range_zero,
      add_zero] at bare
    have zero (count : Nat) : ∑ pads ∈ Finset.range count, steps pads = 0 ↔
        ∀ pads < count, steps pads = 0 := by
      rw [Finset.sum_eq_zero_iff_of_nonpos fun pads _ => nonpositive pads]
      simp
    have same : SameLikelihood model session first second ↔
        ∑ pads ∈ Finset.range (first - session.length), steps pads = 0 ∧
          ∑ pads ∈ Finset.range (second - session.length), steps pads = 0 := by
      simp [SameLikelihood, bare, short, other]
    rw [same, zero, zero]
    constructor
    · intro both pads below
      rcases le_total first second with order | order
      · exact both.2 pads (by rwa [max_eq_right order] at below)
      · exact both.1 pads (by rwa [max_eq_left order] at below)
    · intro all
      exact ⟨fun pads below => all pads (by omega), fun pads below => all pads (by omega)⟩
  refine ⟨?_, fun strict => ?_⟩
  · simp only [sums, step, Except.ok.injEq]
  · rw [sums]
    constructor
    · intro all
      by_contra padded
      -- The first pad has a negative step.
      obtain ⟨logits, token, same⟩ := nextLogProb_mem (step 0)
      exact (strict logits token).ne (same.trans (all 0 (by omega)))
    · intro full pads below
      omega

end SessionLSTM

/-! ### A padded session -/

open SessionLSTM

/-- A share has a negative logarithm, as long as there are two tokens. -/
theorem logSoftmax_neg {size : Nat} (two : 2 ≤ size) (logits : Fin size → ℝ) (token : Fin size) :
    logSoftmax logits token < 0 := by
  -- The exponential of the token is less than the sum of all.
  have : Nontrivial (Fin size) := Fin.nontrivial_iff_two_le.mpr two
  obtain ⟨other, differs⟩ := exists_ne token
  have less : Real.exp (logits token) < ∑ other, Real.exp (logits other) :=
    Finset.single_lt_sum differs (Finset.mem_univ token) (Finset.mem_univ other)
      (Real.exp_pos _) fun _ _ _ => (Real.exp_pos _).le
  have logs := Real.log_lt_log (Real.exp_pos _) less
  rw [Real.log_exp] at logs
  exact sub_neg.mpr logs

/-- The biased model treats every timestep alike. -/
theorem biasedLSTM_causal : biasedLSTM.Causal := fun _ _ =>
  -- The first hidden states are those of the first timesteps.
  List.map_take

/-- The law at two events, one pad and none. -/
theorem sameLikelihood_iff_biased :
    (SameLikelihood biasedLSTM [1, 1] 2 3 ↔
      ∀ pads < max 2 3 - 2, biasedLSTM.nextLogProb (withPads [1, 1] pads) padIndex = .ok 0) ∧
    ((∀ logits token, biasedLSTM.logSoftmax logits token < 0) →
      (SameLikelihood biasedLSTM [1, 1] 2 3 ↔ 2 = 2 ∧ 3 = 2)) :=
  -- Every step lowers the likelihood, so padding is never free.
  sameLikelihood_iff biasedLSTM biasedLSTM_causal
    (fun logits token => (logSoftmax_neg le_rfl logits token).le) [1, 1] le_rfl
    (by simp [Knows, biasedLSTM]) 2 3 le_rfl (by decide)

/-- One pad makes two events less likely. -/
theorem sameLikelihood_onePad :
    biasedLSTM.Causal ∧
      biasedLSTM.sequenceLogLikelihood (.flat (padOrTruncate [1, 1] 2)) = .ok (2 - biasedNorm) ∧
      biasedLSTM.sequenceLogLikelihood (.flat (padOrTruncate [1, 1] 3)) =
        .ok (2 - biasedNorm - biasedNorm) ∧
      ¬ SameLikelihood biasedLSTM [1, 1] 2 3 := by
  have bare : biasedLSTM.sequenceLogLikelihood (.flat (padOrTruncate [1, 1] 2)) =
      .ok (2 - biasedNorm) := by
    simp [padOrTruncate, SessionLSTM.sequenceLogLikelihood, TokenTensor.unsqueeze,
      SessionLSTM.forward, SessionLSTM.embed, SessionLSTM.gather, biasedLSTM, logSoftmax, biasedNorm,
      Fin.sum_univ_two]
  have padded : biasedLSTM.sequenceLogLikelihood (.flat (padOrTruncate [1, 1] 3)) =
      .ok (2 - biasedNorm - biasedNorm) := by
    simp [padOrTruncate, padIndex, SessionLSTM.sequenceLogLikelihood, TokenTensor.unsqueeze,
      SessionLSTM.forward, SessionLSTM.embed, SessionLSTM.gather, biasedLSTM, logSoftmax, biasedNorm,
      Fin.sum_univ_two, sub_eq_add_neg]
  refine ⟨biasedLSTM_causal, bare, padded, ?_⟩
  -- The pad costs the normalising logarithm, which is positive.
  intro same
  obtain ⟨likelihood, -, short, long⟩ := same
  rw [bare, Except.ok.injEq] at short
  rw [padded, Except.ok.injEq] at long
  linarith [biasedNorm_bounds.1]

end Absm
