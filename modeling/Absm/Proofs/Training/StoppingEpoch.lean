import Mathlib.Algebra.Order.Field.Rat
import Mathlib.Tactic.NormNum
import Absm.Proofs.Models.RegistryFiles
import Absm.Proofs.Training.EpochRuns

/-! Early stopping by its definition: which epoch training ends with, and the loss that it returns. -/

namespace Absm

variable {W O B K V C : Type} [Field K] [LinearOrder K]

/-- The loss of an epoch is strictly below those of all earlier ones. -/
def BelowEarlier (losses : Nat → K) (epoch : Nat) : Prop :=
  -- Strictly below all of them.
  ∀ earlier, 1 ≤ earlier → earlier < epoch → losses epoch < losses earlier

/-- The evaluation finds a sequence of exact losses, counted from one. -/
def FindsLosses (torch : Torch W O B K) (call : TrainCall W B K) (optimizer : O) (losses : Nat → K) :
    Prop :=
  -- The losses are finite and given.
  ∀ epoch, 1 ≤ epoch → validationLoss torch (call.start optimizer).learning epoch = .finite (losses epoch)

/-- Training ends with an epoch and returns a loss as early stopping is defined. -/
structure StopsEarly (torch : Torch W O B K) (formats : Formats W (Json (ExtFloat K)) C) (host : Host)
    (call : TrainCall W B K) (optimizer : O) (losses : Nat → K) (last : Nat) (best : ExtFloat K) :
    Prop where
  /-- The last epoch is the first one after as many epochs without a lower loss as there is patience for,
  or the last permitted one. -/
  least : IsLeast {epoch | epoch ≤ call.epochs.toNat ∧
    (Stalled (BelowEarlier losses) call.patience.toNat epoch ∨ epoch = call.epochs.toNat)} last
  /-- Exactly the epochs up to it are run. -/
  executed : (runEpochs torch call optimizer).history.map EpochRecord.validated =
    (List.range' 1 last).map fun epoch => (epoch, .finite (losses epoch))
  /-- After the checkpoint is saved, if it is, the best loss is returned. -/
  returned : trainAutoencoder torch formats host call = (do
    saveCheckpoint formats host call (runEpochs torch call optimizer)
    return best)
  /-- Without an epoch it is infinite. -/
  infinite : last = 0 → best = .infinity
  /-- Otherwise it is the least loss of the epochs that are run. -/
  minimum : 0 < last → ∃ loss, best = .finite loss ∧
    IsLeast {found | ∃ epoch, 1 ≤ epoch ∧ epoch ≤ last ∧ found = losses epoch} loss

section Exact

variable {torch : Torch W O B K} {call : TrainCall W B K} {optimizer : O} {losses : Nat → K}

/-- An epoch improves when its loss is strictly below those of all earlier ones. -/
theorem improvingEpoch_iff (finds : FindsLosses torch call optimizer losses) {epoch : Nat}
    (first : 1 ≤ epoch) :
    ImprovingEpoch torch (call.start optimizer).learning epoch ↔ BelowEarlier losses epoch := by
  -- An exact loss is below infinity.
  have place (epoch : Nat) (first : 1 ≤ epoch) :
      lossRank (validationLoss torch (call.start optimizer).learning epoch) =
        ((losses epoch : WithTop K) : WithBot (WithTop K)) := by
    rw [finds epoch first]
    rfl
  constructor
  · intro improves earlier begun before
    have below : lossRank _ < lossRank _ := improves.2 earlier begun before
    rw [place epoch first, place earlier begun] at below
    exact WithTop.coe_lt_coe.mp (WithBot.coe_lt_coe.mp below)
  · intro lower
    refine ⟨?_, fun earlier begun before => ?_⟩
    · show lossRank _ < _
      rw [place epoch first]
      exact finiteRank_lt_top _
    · show lossRank _ < lossRank _
      rw [place epoch first, place earlier begun]
      exact WithBot.coe_lt_coe.mpr (WithTop.coe_lt_coe.mpr (lower earlier begun before))

/-- Training that finds exact losses ends with its final epoch as early stopping is defined. -/
theorem stopsEarly_runEpochs (formats : Formats W (Json (ExtFloat K)) C) (host : Host)
    (made : torch.adam call.model call.learningRate = .ok optimizer) (patient : 1 ≤ call.patience)
    (finds : FindsLosses torch call optimizer losses) :
    StopsEarly torch formats host call optimizer losses (finalEpoch torch call optimizer)
      (runEpochs torch call optimizer).bestVal := by
  -- The last epoch is the least stalled one, and the value is the least loss.
  have atEnd := atEpochEnd_runEpochs torch call optimizer
  have window : call.window = call.patience.toNat := by
    rw [TrainCall.window, max_eq_left patient]
  have stalled (epoch : Nat) : Stalled (ImprovingEpoch torch (call.start optimizer).learning) call.window
      epoch ↔ Stalled (BelowEarlier losses) call.patience.toNat epoch := by
    rw [window]
    exact stalled_congr (fun epoch first _ => improvingEpoch_iff finds first) _
  have least := isLeast_lastEpoch (ImprovingEpoch torch (call.start optimizer).learning) call.window
    call.epochs.toNat
  simp only [stalled] at least
  exact {
    least := ⟨⟨lastEpoch_le _ _ _, least.1⟩, fun epoch member => least.2 member.2⟩
    executed := by
      rw [atEnd.history]
      exact List.map_congr_left fun epoch member => by
        rw [finds epoch (List.mem_range'_1.mp member).1]
    returned := trainAutoencoder_eq formats host made
    infinite := fun none => by
      rw [none] at atEnd
      rcases atEnd.bestVal_attained with infinite | ⟨earlier, first, last, _⟩
      · exact infinite
      · omega
    minimum := fun begins => by
      obtain ⟨earlier, first, last, attained⟩ := atEnd.bestVal_mem begins fun epoch first _ => by
        rw [finds epoch first]
        simp
      rw [finds earlier first] at attained
      refine ⟨losses earlier, attained, ⟨earlier, first, last, rfl⟩, ?_⟩
      rintro loss ⟨epoch, begun, ended, rfl⟩
      have above := atEnd.bestVal_le begun ended
      rw [attained, finds epoch begun] at above
      exact not_lt.mp fun below => above (decide_eq_true below) }

/-- Training with more patience ends with the same epoch or a later one. -/
theorem finalEpoch_mono {more : Int} (patient : call.patience ≤ more) :
    finalEpoch torch call optimizer ≤ finalEpoch torch { call with patience := more } optimizer := by
  -- A longer window stalls later.
  refine lastEpoch_mono ?_ _
  unfold TrainCall.window
  dsimp only
  omega

/-- Training with more patience does not return a larger loss. -/
theorem bestVal_anti {more : Int} (patient : call.patience ≤ more) :
    ¬ (runEpochs torch call optimizer).bestVal <
      (runEpochs torch { call with patience := more } optimizer).bestVal := by
  -- More epochs can only find a lower loss.
  have atEnd := atEpochEnd_runEpochs torch call optimizer
  have further := atEpochEnd_runEpochs torch { call with patience := more } optimizer
  rw [lt_iff_lossRank further.number, not_lt, atEnd.best, further.best]
  exact bestLoss_anti (finalEpoch_mono patient)

end Exact

/-- Early stopping follows its definition, and more patience means no fewer epochs and no larger loss. -/
theorem trainAutoencoder_stopsEarly (torch : Torch W O B K) (formats : Formats W (Json (ExtFloat K)) C)
    (host : Host) (call : TrainCall W B K) {optimizer : O} {losses : Nat → K}
    (made : torch.adam call.model call.learningRate = .ok optimizer)
    (finds : FindsLosses torch call optimizer losses) (patient : 1 ≤ call.patience) :
    ∃ last best, StopsEarly torch formats host call optimizer losses last best ∧
      ∀ more, call.patience ≤ more → ∃ later better,
        StopsEarly torch formats host { call with patience := more } optimizer losses later better ∧
          last ≤ later ∧ ¬ best < better :=
  -- Both runs are described by their own last epochs.
  ⟨_, _, stopsEarly_runEpochs formats host made patient finds, fun _ more =>
    ⟨_, _, stopsEarly_runEpochs formats host made (patient.trans more) finds, finalEpoch_mono more,
      bestVal_anti more⟩⟩

/-! ### Training with given losses -/

/-- A library whose models count their steps, and whose losses follow a script. -/
def scriptedTorch (losses : Nat → K) : Torch Nat Unit Nat K where
  -- Weights count the steps, and the loss depends on them alone.
  adam _ _ := .ok ()
  reconstruct weights _ := weights
  mseLoss reconstructed _ := .finite (losses reconstructed)
  optimizerStep weights _ _ := (weights + 1, ())

/-- Training of a model that has made no step, on one batch that is given as a collection. -/
def scriptedCall (K : Type) [Field K] (trainBatches valBatches : Batches Nat) (epochs patience : Int) :
    TrainCall Nat Nat K where
  -- Everything else is fixed.
  model := 0
  trainBatches := trainBatches
  valBatches := valBatches
  epochs := epochs
  patience := patience
  trainedAt := "1970-01-01T00:00:00+00:00"
  savedAt := "1970-01-01T00:00:00Z"

/-- The mean loss on one batch is the loss on it. -/
theorem evalLossOn_singleton [IsStrictOrderedRing K] {torch : Torch W O B K} {weights : W} {batch : B}
    {loss : K} (exact : torch.lossOn weights batch = .finite loss) :
    evalLossOn torch weights [batch] = .finite loss := by
  -- One loss over a count of one.
  show meanLoss (0.0 + torch.lossOn weights batch) 1 = .finite loss
  rw [ExtFloat.zero_add, exact, meanLoss, ExtFloat.finite_mul]
  norm_num

variable (losses : Nat → K)

/-- On one batch the model makes one step in each epoch. -/
theorem learningAfter_scripted (epochs patience : Int) (epoch : Nat) :
    learningAfter (scriptedTorch losses)
        ((scriptedCall K (.list [0]) (.list [0]) epochs patience).start ()).learning epoch =
      ⟨epoch, (), .list [0], .list [0]⟩ := by
  -- Each epoch is one step.
  induction epoch with
  | zero => rfl
  | succ epoch ih =>
    rw [learningAfter, ih]
    rfl

/-- Every sequence of losses is found by some training. -/
theorem findsLosses_scripted [IsStrictOrderedRing K] (epochs patience : Int) :
    FindsLosses (scriptedTorch losses) (scriptedCall K (.list [0]) (.list [0]) epochs patience) ()
      losses := by
  -- The weights at an epoch are its number.
  intro epoch first
  obtain ⟨before, rfl⟩ := Nat.exists_eq_add_of_le' first
  rw [validationLoss, learningAfter_scripted]
  exact evalLossOn_singleton rfl

/-- Files that hold weights or documents as they are. -/
def scriptedFormats (K : Type) : Formats Nat (Json (ExtFloat K)) (Nat ⊕ Json (ExtFloat K)) where
  -- The two kinds of content are kept apart.
  saveState := .inl
  loadState
    | .inl model => .ok model
    | .inr _ => .error .formatError
  text := .str
  mapping metadata := .object metadata.entries
  dumps value := .ok (.inr value)
  loads
    | .inl _ => .error .formatError
    | .inr value => .ok value

/-- With patience for one epoch and losses that rise, training ends with the second epoch and returns the
loss of the first one. -/
theorem trainAutoencoder_stopsEarly_rising :
    StopsEarly (scriptedTorch fun epoch => (epoch : ℚ)) (scriptedFormats ℚ) plainHost
      (scriptedCall ℚ (.list [0]) (.list [0]) 9 1) () (fun epoch => (epoch : ℚ)) 2 (.finite 1) := by
  obtain ⟨last, best, stops, _⟩ := trainAutoencoder_stopsEarly (scriptedTorch fun epoch => (epoch : ℚ))
    (scriptedFormats ℚ) plainHost (scriptedCall ℚ (.list [0]) (.list [0]) 9 1) rfl
    (findsLosses_scripted _ 9 1) le_rfl
  -- The first epoch is below all earlier ones, for there are none, and the second one is not.
  have second : last = 2 := by
    refine stops.least.unique ⟨⟨by decide, .inl ⟨by decide, fun recent late ended below => ?_⟩⟩, ?_⟩
    · obtain rfl : recent = 2 := by
        change 2 < recent + 1 at late
        omega
      exact absurd (below 1 le_rfl (by decide)) (by norm_num)
    · intro epoch member
      rcases member.2 with stalled | rfl
      · by_contra early
        have begun : 1 ≤ epoch := stalled.1
        obtain rfl : epoch = 1 := by omega
        exact stalled.2 1 (by decide) le_rfl fun earlier first before => by omega
      · decide
  subst second
  obtain ⟨loss, rfl, least⟩ := stops.minimum (by decide)
  obtain rfl : loss = 1 := by
    refine least.unique ⟨⟨1, le_rfl, by decide, by norm_num⟩, ?_⟩
    rintro found ⟨epoch, first, _, rfl⟩
    exact_mod_cast first
  exact stops

end Absm
