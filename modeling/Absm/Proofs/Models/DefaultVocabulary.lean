import Absm.Proofs.Features.EventTokens
import Absm.Proofs.Models.EnsembleRanking
import Absm.Proofs.Models.TokenLikelihood

/-! Which batches the sequence model can score with the vocabulary that it has by default. -/

namespace Absm

variable {F : Type}

/-- Of the events that are kept of the sessions, none is of a type that is not built in and that comes
behind twenty-seven or more such types of the batch. -/
def KeptTypesFit (events : List (ScrubbedEvent F)) (maxLen : Nat) : Prop :=
  -- Tokens 0 to 31 are known, and unseen types start at 5.
  ∀ ordered groups, sortedByTimestamp events = .ok ordered → SessionCut ordered groups →
    ∀ group ∈ groups, ∀ event ∈ group.take maxLen,
      event.eventType ∈ unseenSet events → rank (unseenSet events) event.eventType < 27

/-- The tokens of a row are those of the events that are kept, and the pad if the session is short. -/
private theorem mem_row_iff (eventIndex : Dict String Int) (group : List (ScrubbedEvent F))
    (maxLen : Nat) (token : Int) :
    token ∈ padOrTruncate (groupTokens eventIndex group) maxLen ↔
      (∃ event ∈ group.take maxLen, tokenOf eventIndex event.eventType = token) ∨
        (group.length < maxLen ∧ token = padIndex) := by
  -- Tokens come from the kept part of the session, zeros from the padding.
  rw [padOrTruncate_eq, List.mem_append, groupTokens, ← List.map_take, List.mem_map,
    List.mem_replicate, List.length_map]
  simp only [ne_eq, Nat.sub_eq_zero_iff_le, not_le]

/-- The tokens of a batch are below the size of the default vocabulary exactly when the kept types fit. -/
private theorem tokens_fit_iff {events : List (ScrubbedEvent F)} (nonempty : events ≠ [])
    {maxLen : Int} (positive : 0 < maxLen) {batch : TokenBatch}
    (built : buildSessionSequences events maxLen = .ok batch) :
    (∀ row ∈ batch.rows, ∀ token ∈ row,
      0 ≤ token ∧ token < (SessionLSTM.defaultVocabSize : Int)) ↔
        KeptTypesFit events maxLen.toNat := by
  -- Only new event types can have numbers above the vocabulary; a pad is zero.
  obtain ⟨comparable, -, rows⟩ := (buildSessionSequences_eq_ok nonempty positive batch).mp built
  have sorted := (sortedByTimestamp_eq_ok events _).mpr ⟨comparable, rfl⟩
  have cut := (sessionCut_iff (orderedEvents events) (sessionEvents events)).mpr rfl
  rw [rows]
  constructor
  · intro all ordered groups same other group member event inside unseen
    obtain ⟨-, rfl⟩ := (sortedByTimestamp_eq_ok events ordered).mp same
    obtain rfl := (sessionCut_iff _ groups).mp other
    have fits := (all _ (List.mem_map.mpr ⟨group, member, rfl⟩) _
      ((mem_row_iff _ group _ _).mpr (.inl ⟨event, inside, rfl⟩))).2
    rw [tokenOf_unseen unseen, SessionLSTM.defaultVocabSize] at fits
    omega
  · intro fit row rowIn token tokenIn
    obtain ⟨group, member, rfl⟩ := List.mem_map.mp rowIn
    rcases (mem_row_iff _ group _ token).mp tokenIn with ⟨event, inside, rfl⟩ | ⟨_, rfl⟩
    · have found := buildEventIndex_found
        (mem_of_sessionCut sorted cut member (List.mem_of_mem_take inside))
      rw [SessionLSTM.defaultVocabSize]
      rcases buildEventIndex_cases found with ⟨_, range⟩ | ⟨unseen, number⟩
      · omega
      · have below := fit _ _ sorted cut group member event inside unseen
        omega
    · decide

/-- What is built of a batch is within the default vocabulary, and has a likelihood under a model of it,
exactly when none of the kept types comes too late. -/
theorem rows_inVocabulary_iff {K : Type} [Field K] (model : SessionLSTM K)
    (byDefault : model.vocabSize = SessionLSTM.defaultVocabSize) (events : List (ScrubbedEvent F))
    (nonempty : events ≠ []) (maxLen : Int) (least : 2 ≤ maxLen) (batch : TokenBatch)
    (built : buildSessionSequences events maxLen = .ok batch) :
    ((∀ row ∈ batch.rows, ∀ token ∈ row, 0 ≤ token ∧ token < (model.vocabSize : Int)) ↔
      KeptTypesFit events maxLen.toNat) ∧
    ((∃ likelihood, model.sequenceLogLikelihood (.batch batch) = .ok likelihood) ↔
      KeptTypesFit events maxLen.toNat) := by
  have positive : 0 < maxLen := by omega
  have fit := tokens_fit_iff nonempty positive built
  obtain ⟨-, width, -⟩ := (buildSessionSequences_eq_ok nonempty positive batch).mp built
  rw [← byDefault] at fit
  refine ⟨fit, ?_⟩
  -- The embedding and the gathering need the same tokens to be known.
  rw [SessionLSTM.sequenceLogLikelihood_returns_iff model batch (by omega), ← fit]
  have same (token : Int) : 0 ≤ token ∧ token.toNat < model.vocabSize ↔
      0 ≤ token ∧ token < (model.vocabSize : Int) := by omega
  simp only [SessionLSTM.Knows, same]

/-- The model whose parameters are all zero. -/
noncomputable def zeroLSTM : SessionLSTM ℝ where
  -- Every token is equally likely.
  vocabSize := SessionLSTM.defaultVocabSize
  embeddingDim := 16
  hiddenSize := 64
  embedding := fun _ _ => 0
  lstm := fun embedded => embedded.map fun _ _ => 0
  projection := constantLayer 0
  logSoftmax := logSoftmax
  lstm_length := biasedLSTM.lstm_length

/-- The law at three events of built-in types. -/
theorem rows_inVocabulary_iff_three :
    ((∀ row ∈ threeEventsBatch.rows, ∀ token ∈ row, 0 ≤ token ∧ token < (zeroLSTM.vocabSize : Int)) ↔
      KeptTypesFit threeEvents 5) ∧
    ((∃ likelihood, zeroLSTM.sequenceLogLikelihood (.batch threeEventsBatch) = .ok likelihood) ↔
      KeptTypesFit threeEvents 5) :=
  -- Two types that are built in.
  rows_inVocabulary_iff zeroLSTM rfl threeEvents (by simp [threeEvents]) 5 (by decide)
    threeEventsBatch threeEvents_built

/-- An event of each of twenty-eight types, none of which is built in, all at one time. -/
def manyTypes : List (ScrubbedEvent Int) :=
  -- Twenty-eight types, none of them built in.
  ["cloud", "database", "dns", "door", "email", "endpoint", "firewall", "ftp", "git", "group",
    "hardware", "http", "identity", "ldap", "mail", "malware", "mobile", "password", "print",
    "process", "proxy", "registry", "remote", "share", "ssh", "usb", "vpn", "wifi"].map (makeEvent 0)

/-- The tokens of these events, the last of which is as large as the vocabulary. -/
def manyTypesBatch : TokenBatch :=
  -- The last token is 32.
  ⟨28, [[5, 6, 7, 8, 9, 10, 11, 12, 13, 14, 15, 16, 17, 18, 19, 20, 21, 22, 23, 24, 25, 26, 27, 28,
    29, 30, 31, 32]], by decide⟩

/-- Twenty-eight new types are too many for the default vocabulary. -/
theorem rows_inVocabulary_fails :
    buildSessionSequences manyTypes 28 = .ok manyTypesBatch ∧
      ¬ ∀ row ∈ manyTypesBatch.rows, ∀ token ∈ row,
        0 ≤ token ∧ token < (SessionLSTM.defaultVocabSize : Int) :=
  -- The vocabulary ends at 31.
  ⟨(buildSessionSequences_eq_ok (by simp [manyTypes]) (by decide) _).mpr
    ⟨(comparableTimes_iff _).mpr (by decide), rfl, by decide +kernel⟩, by decide⟩

end Absm
