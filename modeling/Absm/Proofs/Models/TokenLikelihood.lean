import Mathlib.Algebra.Order.BigOperators.Group.List
import Mathlib.Algebra.Order.Ring.Defs
import Absm.Features.SequenceBuilder
import Absm.Models.SequenceScorer

/-! The likelihood of a token sequence is the sum of its steps, and padding adds steps to it. -/

namespace Absm

variable {K : Type}

/-- An item of the shorter of two lists is paired with an item of the other one. -/
theorem exists_mem_zip {α β : Type} {left : List α} {right : List β}
    (lengths : right.length ≤ left.length) {item : β} (member : item ∈ right) :
    ∃ pair ∈ left.zip right, pair.2 = item := by
  -- The second parts of the pairs are all items.
  rw [← List.map_snd_zip lengths] at member
  exact List.mem_map.mp member

namespace SessionLSTM

/-! ### Known tokens -/

/-- Tokens that are all part of the vocabulary. -/
def Knows (model : SessionLSTM K) (tokens : List Int) : Prop :=
  -- A negative token is no index.
  ∀ token ∈ tokens, 0 ≤ token ∧ token.toNat < model.vocabSize

/-- The tokens of the vocabulary have vectors, and no others. -/
theorem embed_returns_iff (model : SessionLSTM K) (token : Int) :
    (∃ vector, model.embed token = .ok vector) ↔ 0 ≤ token ∧ token.toNat < model.vocabSize := by
  -- The embedding has one row for each token.
  unfold embed
  split <;> simp [*]

/-- The tokens of the vocabulary have log-probabilities, and no others. -/
theorem gather_returns_iff (model : SessionLSTM K) (logProbs : Fin model.vocabSize → K)
    (target : Int) : (∃ logProb, model.gather logProbs target = .ok logProb) ↔
      0 ≤ target ∧ target.toNat < model.vocabSize := by
  -- `gather` reads one entry for each token.
  unfold gather
  split <;> simp [*]

variable [Field K]

/-- The model reads exactly the sequences of known tokens. -/
theorem forward_returns_iff (model : SessionLSTM K) (seq : List Int) :
    (∃ logProbs, model.forward seq = .ok logProbs) ↔ model.Knows seq := by
  -- Only the lookup of a vector can fail.
  have embedded := mapM_ok_iff model.embed seq
  simp only [embed_returns_iff] at embedded
  rw [Knows, ← embedded]
  simp [forward, bind_eq_ok]

/-- There are log-probabilities after every token. -/
theorem forward_length {model : SessionLSTM K} {seq : List Int}
    {logProbs : List (Fin model.vocabSize → K)} (read : model.forward seq = .ok logProbs) :
    logProbs.length = seq.length := by
  -- The network gives one state for each token.
  obtain ⟨embedded, looked, returned⟩ := bind_eq_ok.mp read
  cases returned
  simp [model.lstm_length, length_of_mapM looked]

/-- The likelihood sums up what is gathered for every row. -/
theorem sequenceLogLikelihood_eq_ok (model : SessionLSTM K) (seq : TokenTensor)
    (two : 2 ≤ seq.unsqueeze.width) (likelihood : K) :
    model.sequenceLogLikelihood seq = .ok likelihood ↔
      ∃ logProbs, seq.unsqueeze.rows.mapM (fun row => model.forward row.dropLast) = .ok logProbs ∧
        ∃ gathered, ((logProbs.zip seq.unsqueeze.rows).mapM fun pair =>
          (pair.1.zip pair.2.tail).mapM fun step => model.gather step.1 step.2) = .ok gathered ∧
          (gathered.map List.sum).sum = likelihood := by
  -- The tensor is wide enough, so the computation starts.
  unfold sequenceLogLikelihood
  rw [if_neg (not_lt.mpr two)]
  simp only [bind_eq_ok, pure_eq_ok, Except.ok.injEq]

/-- A batch of sequences of at least two tokens has a likelihood exactly when all of its tokens are part
of the vocabulary. -/
theorem sequenceLogLikelihood_returns_iff (model : SessionLSTM K) (sequences : TokenBatch)
    (two : 2 ≤ sequences.width) :
    (∃ likelihood, model.sequenceLogLikelihood (.batch sequences) = .ok likelihood) ↔
      ∀ row ∈ sequences.rows, model.Knows row := by
  have long : ∀ row ∈ sequences.rows, 2 ≤ row.length := fun row member =>
    (sequences.rectangular row member).ge.trans' two
  simp only [sequenceLogLikelihood_eq_ok model (.batch sequences) two,
    TokenTensor.unsqueeze]
  constructor
  · intro returned
    obtain ⟨_, logProbs, read, gathered, picked, _⟩ := returned
    intro row member token inside
    -- A token is embedded if it is not the last one, and gathered if it is not the first one.
    obtain ⟨⟨probs, other⟩, there, same⟩ := exists_mem_zip (length_of_mapM read).ge member
    obtain rfl : other = row := same
    have forwarded := of_mem_zip_mapM read there
    obtain ⟨first, rest, rfl⟩ : ∃ first rest, other = first :: rest :=
      List.exists_cons_of_length_pos (by have := long other member; omega)
    rcases List.mem_cons.mp inside with rfl | later
    · refine (forward_returns_iff model _).mp ⟨probs, forwarded⟩ token ?_
      have nonempty : rest ≠ [] := by
        have := long _ member
        rintro rfl
        simp at this
      simp [List.dropLast_cons_of_ne_nil nonempty]
    · have lengths : rest.length ≤ probs.length := by
        simpa using (forward_length forwarded).ge
      obtain ⟨step, target, same⟩ := exists_mem_zip lengths later
      obtain ⟨result, steps⟩ := (mapM_ok_iff _ _).mp ⟨gathered, picked⟩ _ there
      have each := (mapM_ok_iff _ _).mp ⟨result, steps⟩ step target
      exact same ▸ (gather_returns_iff model _ _).mp each
  · intro known
    obtain ⟨logProbs, read⟩ := (mapM_ok_iff (fun row => model.forward row.dropLast)
      sequences.rows).mpr fun row member => (forward_returns_iff model _).mpr fun token inside =>
        known row member token (List.mem_of_mem_dropLast inside)
    obtain ⟨gathered, picked⟩ := (mapM_ok_iff (fun pair : List (Fin model.vocabSize → K) × List Int =>
      (pair.1.zip pair.2.tail).mapM fun step => model.gather step.1 step.2)
        (logProbs.zip sequences.rows)).mpr fun pair member =>
          (mapM_ok_iff _ _).mpr fun step inside => (gather_returns_iff model _ _).mpr
            (known pair.2 (List.of_mem_zip member).2 step.2
              (List.mem_of_mem_tail (List.of_mem_zip inside).2))
    exact ⟨_, logProbs, read, gathered, picked, rfl⟩

/-! ### Causal models -/

/-- A causal model: the hidden states after the first tokens do not depend on the later ones. -/
def Causal (model : SessionLSTM K) : Prop :=
  -- A prefix of the input gives that prefix of the output.
  ∀ embedded count, model.lstm (embedded.take count) = (model.lstm embedded).take count

/-- The log-probability of a token after others. -/
def nextLogProb (model : SessionLSTM K) (before : List Int) (next : Int) : Except PyError K := do
  -- The last output is about the next token.
  let logProbs ← model.forward before
  match logProbs.getLast? with
  | some last => model.gather last next
  | none => .error (.indexError "index out of range")

/-- What a causal model reads of the first tokens of a sequence. -/
theorem Causal.forward_take {model : SessionLSTM K} (causal : model.Causal) {seq : List Int}
    {logProbs : List (Fin model.vocabSize → K)} (read : model.forward seq = .ok logProbs)
    (count : Nat) : model.forward (seq.take count) = .ok (logProbs.take count) := by
  -- Looking tokens up does not mix positions, and the network is causal.
  obtain ⟨embedded, looked, returned⟩ := bind_eq_ok.mp read
  cases returned
  simp [forward, mapM_take looked count, causal embedded count, List.map_take]

/-- Known tokens have a log-probability after known tokens. -/
theorem nextLogProb_returns {model : SessionLSTM K} {before : List Int} {next : Int}
    (nonempty : before ≠ []) (known : model.Knows before) (target : model.Knows [next]) :
    ∃ logProb, model.nextLogProb before next = .ok logProb := by
  -- The model gives a distribution for each position, so there is a last one.
  obtain ⟨logProbs, read⟩ := (forward_returns_iff model before).mpr known
  have some : logProbs ≠ [] := by
    rintro rfl
    exact nonempty (List.length_eq_zero_iff.mp (forward_length read).symm)
  obtain ⟨logProb, picked⟩ := (gather_returns_iff model (logProbs.getLast some) next).mpr
    (target next (List.mem_singleton_self next))
  exact ⟨logProb, by simp [nextLogProb, read, List.getLast?_eq_some_getLast some, picked]⟩

/-- A sequence alone sums up the steps of its only row. -/
theorem sequenceLogLikelihood_flat {model : SessionLSTM K} {tokens : List Int}
    (two : 2 ≤ tokens.length) (likelihood : K) :
    model.sequenceLogLikelihood (.flat tokens) = .ok likelihood ↔
      ∃ logProbs, model.forward tokens.dropLast = .ok logProbs ∧
        ∃ gathered, ((logProbs.zip tokens.tail).mapM fun step => model.gather step.1 step.2) =
          .ok gathered ∧ gathered.sum = likelihood := by
  -- The batch has one row.
  rw [sequenceLogLikelihood_eq_ok model (.flat tokens) two]
  simp only [TokenTensor.unsqueeze, List.mapM_cons, List.mapM_nil, pure_eq_ok, ok_bind, bind_eq_ok,
    Except.ok.injEq]
  constructor
  · intro returned
    obtain ⟨_, ⟨logProbs, read, rfl⟩, gathered, picked, total⟩ := returned
    simp only [List.zip_cons_cons, List.zip_nil_left, List.mapM_cons, List.mapM_nil, pure_eq_ok,
      ok_bind, bind_eq_ok, Except.ok.injEq] at picked
    obtain ⟨steps, picked, rfl⟩ := picked
    exact ⟨logProbs, read, steps, picked, by simpa using total⟩
  · intro returned
    obtain ⟨logProbs, read, steps, picked, total⟩ := returned
    exact ⟨_, ⟨logProbs, read, rfl⟩, [steps], by simp [picked], by simpa using total⟩

/-- One token more adds its step to the likelihood. -/
theorem Causal.sequenceLogLikelihood_concat {model : SessionLSTM K} (causal : model.Causal)
    {tokens : List Int} {next : Int} {likelihood logProb : K} (two : 2 ≤ tokens.length)
    (scored : model.sequenceLogLikelihood (.flat tokens) = .ok likelihood)
    (step : model.nextLogProb tokens next = .ok logProb) :
    model.sequenceLogLikelihood (.flat (tokens ++ [next])) = .ok (likelihood + logProb) := by
  obtain ⟨earlier, readEarlier, gathered, picked, total⟩ :=
    (sequenceLogLikelihood_flat two likelihood).mp scored
  obtain ⟨logProbs, read, last⟩ := bind_eq_ok.mp step
  -- What was read without the last token is what is read before it.
  have taken := causal.forward_take read (tokens.length - 1)
  rw [← List.dropLast_eq_take, readEarlier, Except.ok.injEq] at taken
  have lengths := forward_length read
  have nonempty : logProbs ≠ [] := by
    rintro rfl
    simp only [List.length_nil] at lengths
    omega
  rw [List.getLast?_eq_some_getLast nonempty] at last
  have whole : logProbs = earlier ++ [logProbs.getLast nonempty] := by
    rw [taken, ← lengths, ← List.dropLast_eq_take, List.dropLast_append_getLast]
  have fits : earlier.length = tokens.tail.length := by
    rw [forward_length readEarlier]
    simp
  have tail : (tokens ++ [next]).tail = tokens.tail ++ [next] := by
    cases tokens with
    | nil => simp at two
    | cons first rest => rfl
  refine (sequenceLogLikelihood_flat (by simp; omega) _).mpr
    ⟨logProbs, by simpa using read, gathered ++ [logProb], ?_, by simp [total]⟩
  rw [tail, whole, List.zip_append fits, List.mapM_append, picked]
  simp [last]

end SessionLSTM
end Absm
