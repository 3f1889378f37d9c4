import Mathlib.Order.WithBot
import Absm.Foundation.EarlyStopping
import Absm.Training.AeTrainer

/-! What a run of epochs comes to: how training goes on from epoch to epoch, and where it ends. -/

namespace Absm

/-! ### Losses in order -/

section Order

variable {K : Type}

/-- The place of a loss among others. A loss that is no number is never an improvement, and so has the
place of infinity. -/
def lossRank : ExtFloat K → WithBot (WithTop K)
  -- NaN ranks with infinity, for neither is ever below the best loss.
  | .finite loss => ((loss : WithTop K) : WithBot (WithTop K))
  | .negInfinity => ⊥
  | .infinity => ⊤
  | .nan => ⊤

variable [LinearOrder K]

/-- The place of an exact number is below that of infinity. -/
@[simp] theorem finiteRank_lt_top (loss : K) : ((loss : WithTop K) : WithBot (WithTop K)) < ⊤ := by
  -- Finite losses are below the top.
  rw [← WithBot.coe_top, WithBot.coe_lt_coe]
  exact WithTop.coe_lt_top loss

/-- Losses are compared by their places, as long as the one on the right is a number. -/
theorem lt_iff_lossRank {loss best : ExtFloat K} (number : best ≠ .nan) :
    loss < best ↔ lossRank loss < lossRank best := by
  -- Each kind of float has its own place, apart from the one that is excluded.
  show ExtFloat.lt loss best = true ↔ _
  cases loss <;> cases best <;> simp_all [ExtFloat.lt, lossRank]

/-- Losses that are numbers have different places. -/
theorem lossRank_injective {first second : ExtFloat K} (firstNumber : first ≠ .nan)
    (secondNumber : second ≠ .nan) (same : lossRank first = lossRank second) : first = second := by
  -- Apart from NaN every loss has a rank of its own.
  cases first <;> cases second <;>
    simp_all [lossRank, (finiteRank_lt_top _).ne, (finiteRank_lt_top _).ne']

/-- What lies below a loss is a number. -/
theorem ne_nan_of_lt {loss best : ExtFloat K} (below : loss < best) : loss ≠ .nan := by
  -- NaN compares as false.
  rintro rfl
  cases below

end Order

/-! ### Epoch after epoch -/

variable {W O B K V C : Type} [Field K] [LinearOrder K] (torch : Torch W O B K)

section Epochs

variable (start : Learning W O B)

/-- The model and its batches after some epochs. -/
def learningAfter : Nat → Learning W O B
  -- The state before the first epoch, then one pass after another.
  | 0 => start
  | epoch + 1 => (evalLoss torch (epochLoss torch (learningAfter epoch)).2).2

/-- The loss that the evaluation finds in an epoch; before the first one it is infinite. -/
def validationLoss : Nat → ExtFloat K
  -- There is no loss at epoch zero.
  | 0 => .infinity
  | epoch + 1 => (evalLoss torch (epochLoss torch (learningAfter torch start epoch)).2).1

/-- An epoch whose loss is below those of all earlier ones. -/
def ImprovingEpoch : Nat → Prop :=
  -- Below everything before it, by rank.
  Improves ⊤ fun epoch => lossRank (validationLoss torch start epoch)

instance : DecidablePred (ImprovingEpoch torch start) := inferInstanceAs (DecidablePred (Improves _ _))

variable {torch start}

/-- Evaluating on a list leaves the list as it is. -/
theorem learningAfter_valBatches {items : List B} (list : start.valBatches = .list items) (epoch : Nat) :
    (learningAfter torch start epoch).valBatches = .list items := by
  -- A list is the same after each pass.
  induction epoch with
  | zero => exact list
  | succ epoch ih =>
    show (learningAfter torch start epoch).valBatches.iterate.2 = .list items
    rw [ih]
    rfl

/-- The loss of an epoch is that of the weights at its end, on all batches of the list. -/
theorem validationLoss_eq {items : List B} (list : start.valBatches = .list items) {epoch : Nat}
    (first : 1 ≤ epoch) :
    validationLoss torch start epoch = evalLossOn torch (learningAfter torch start epoch).weights items := by
  -- A list is evaluated in full every time.
  obtain ⟨before, rfl⟩ := Nat.exists_eq_add_of_le' first
  show evalLossOn torch _ (learningAfter torch start before).valBatches.iterate.1 = _
  rw [learningAfter_valBatches list]
  rfl

end Epochs

/-- The number of an epoch in the log, and the loss that the evaluation found. -/
def EpochRecord.validated {K : Type} (record : EpochRecord K) : Nat × ExtFloat K :=
  -- The training loss is left out.
  (record.epoch, record.valLoss)

variable (call : TrainCall W B K) (optimizer : O)

/-- How many epochs without an improvement end the training; one always does when there is no patience. -/
def TrainCall.window : Nat :=
  -- A patience of zero or less counts as one.
  (max call.patience 1).toNat

omit [LinearOrder K] in
/-- At least one epoch must bring no improvement. -/
theorem TrainCall.window_pos : 0 < call.window := by
  -- At least one by the maximum.
  unfold TrainCall.window
  omega

/-- Training has reached the end of an epoch: the model is what the epochs have made of it, the best loss
is the least one, and the patience is less by the epochs without an improvement. -/
structure AtEpochEnd (epoch : Nat) (progress : Progress W O B K) : Prop where
  /-- The model and its batches. -/
  learning : progress.learning = learningAfter torch (call.start optimizer).learning epoch
  /-- The best loss is a number. -/
  number : progress.bestVal ≠ .nan
  /-- It is the least one. -/
  best : lossRank progress.bestVal =
    bestLoss ⊤ (fun epoch => lossRank (validationLoss torch (call.start optimizer).learning epoch)) epoch
  /-- The patience that is left. -/
  patience : progress.patienceLeft =
    call.patience - idleEpochs (ImprovingEpoch torch (call.start optimizer).learning) epoch
  /-- The log has one line for each epoch, with its loss. -/
  history : progress.history.map EpochRecord.validated =
    (List.range' 1 epoch).map fun epoch =>
      (epoch, validationLoss torch (call.start optimizer).learning epoch)

variable {torch call optimizer}

/-- Training that has not begun has reached the end of no epoch. -/
theorem atEpochEnd_start : AtEpochEnd torch call optimizer 0 (call.start optimizer) where
  -- Before the first epoch there is no best loss but infinity.
  learning := rfl
  number := by simp [TrainCall.start]
  best := rfl
  patience := (sub_zero _).symm
  history := rfl

section Step

variable {epoch : Nat} {progress : Progress W O B K}

/-- The loss of the next epoch is below the best one exactly when the epoch improves. -/
theorem AtEpochEnd.improves_iff (atEnd : AtEpochEnd torch call optimizer epoch progress) :
    validationLoss torch (call.start optimizer).learning (epoch + 1) < progress.bestVal ↔
      ImprovingEpoch torch (call.start optimizer).learning (epoch + 1) := by
  -- Comparing losses is comparing ranks.
  rw [lt_iff_lossRank atEnd.number, atEnd.best, ImprovingEpoch, improves_succ_iff]

/-- What an epoch does: its loss is the best one from now on, and the countdown starts anew, or the countdown
goes on. -/
theorem AtEpochEnd.runEpoch_eq (atEnd : AtEpochEnd torch call optimizer epoch progress) :
    ∃ trainLoss,
      let learning := learningAfter torch (call.start optimizer).learning (epoch + 1)
      let valLoss := validationLoss torch (call.start optimizer).learning (epoch + 1)
      let history := progress.history ++ [⟨epoch + 1, trainLoss, valLoss⟩]
      runEpoch torch call.patience epoch progress =
        if ImprovingEpoch torch (call.start optimizer).learning (epoch + 1) then
          (⟨learning, valLoss, call.patience, history⟩, false)
        else (⟨learning, progress.bestVal, progress.patienceLeft - 1, history⟩,
          progress.patienceLeft - 1 ≤ 0) := by
  -- The branches of the epoch, by whether it improves.
  refine ⟨(epochLoss torch progress.learning).1, ?_⟩
  simp only [← atEnd.improves_iff]
  rw [validationLoss, learningAfter, ← atEnd.learning]
  rfl

/-- The line for an epoch follows those for the earlier ones. -/
theorem AtEpochEnd.history_next (atEnd : AtEpochEnd torch call optimizer epoch progress)
    (trainLoss : ExtFloat K) :
    (progress.history ++ [EpochRecord.mk (epoch + 1) trainLoss
        (validationLoss torch (call.start optimizer).learning (epoch + 1))]).map EpochRecord.validated =
      (List.range' 1 (epoch + 1)).map fun epoch =>
        (epoch, validationLoss torch (call.start optimizer).learning epoch) := by
  -- One record is added, with the number of the epoch.
  rw [List.map_append, atEnd.history, List.range'_1_concat, List.map_append, Nat.add_comm 1 epoch]
  rfl

/-- An epoch leads to its end, and training stops there exactly when it is stalled. -/
theorem AtEpochEnd.next (atEnd : AtEpochEnd torch call optimizer epoch progress) :
    AtEpochEnd torch call optimizer (epoch + 1) (runEpoch torch call.patience epoch progress).1 ∧
      ((runEpoch torch call.patience epoch progress).2 = true ↔
        Stalled (ImprovingEpoch torch (call.start optimizer).learning) call.window (epoch + 1)) := by
  have below := atEnd.improves_iff.symm.trans (lt_iff_lossRank atEnd.number)
  obtain ⟨trainLoss, ran⟩ := atEnd.runEpoch_eq
  dsimp only at ran
  rw [← le_idleEpochs_iff, ran]
  by_cases better : ImprovingEpoch torch (call.start optimizer).learning (epoch + 1)
  · -- The countdown starts anew.
    rw [if_pos better]
    refine ⟨⟨rfl, ne_nan_of_lt (atEnd.improves_iff.mpr better), ?_, ?_, atEnd.history_next trainLoss⟩, ?_⟩
    · rw [bestLoss, ← atEnd.best, min_eq_right (below.mp better).le]
    · simp [idleEpochs, better]
    · have positive := call.window_pos
      simp [idleEpochs, better]
      omega
  · -- The countdown goes on.
    rw [if_neg better]
    have patience := atEnd.patience
    refine ⟨⟨rfl, atEnd.number, ?_, ?_, atEnd.history_next trainLoss⟩, ?_⟩
    · rw [bestLoss, ← atEnd.best, min_eq_left (not_lt.mp (mt below.mpr better))]
    · simp [idleEpochs, better]
      omega
    · simp [idleEpochs, better, TrainCall.window]
      omega

end Step

/-! ### Runs -/

/-- After some rounds, the end of as many epochs is reached. -/
theorem atEpochEnd_afterRounds (epoch : Nat) :
    AtEpochEnd torch call optimizer epoch
      (afterRounds (runEpoch torch call.patience) (call.start optimizer) epoch) := by
  -- One epoch keeps it, so every number of epochs does.
  induction epoch with
  | zero => exact atEpochEnd_start
  | succ epoch ih => exact ih.next.1

/-- Training stops exactly after the epochs that it is stalled after. -/
theorem leftAfter_iff {epoch : Nat} :
    LeftAfter (runEpoch torch call.patience) (call.start optimizer) epoch ↔
      Stalled (ImprovingEpoch torch (call.start optimizer).learning) call.window epoch := by
  constructor
  · intro left
    obtain ⟨before, rfl, stops⟩ := left
    exact (atEpochEnd_afterRounds before).next.2.mp stops
  · intro stalled
    -- There is no window of epochs before the first one.
    have positive := call.window_pos.trans_le stalled.1
    obtain ⟨before, rfl⟩ := Nat.exists_eq_add_of_le' positive
    exact ⟨before, rfl, (atEpochEnd_afterRounds before).next.2.mpr stalled⟩

variable (torch call optimizer)

/-- The epoch that training ends with. -/
noncomputable def finalEpoch : Nat :=
  -- The general loop's last round, with this patience.
  lastEpoch (ImprovingEpoch torch (call.start optimizer).learning) call.window call.epochs.toNat

/-- Training reaches the end of its final epoch. -/
theorem atEpochEnd_runEpochs :
    AtEpochEnd torch call optimizer (finalEpoch torch call optimizer) (runEpochs torch call optimizer) := by
  -- The loop is left where training is stalled, or when there are no more epochs.
  obtain ⟨last, least, reached⟩ := forRange_eq_afterRounds (runEpoch torch call.patience)
    (call.start optimizer) call.epochs.toNat
  simp only [leftAfter_iff] at least
  have same : last = finalEpoch torch call optimizer := least.unique (isLeast_lastEpoch _ _ _)
  rw [runEpochs, reached, ← same]
  exact atEpochEnd_afterRounds last

/-- With an epoch to run, training does not end before the first one. -/
theorem finalEpoch_pos (begins : 0 < call.epochs) : 0 < finalEpoch torch call optimizer := by
  -- The patience or the number of epochs is positive.
  rcases (isLeast_lastEpoch (ImprovingEpoch torch (call.start optimizer).learning) call.window
    call.epochs.toNat).1 with stalled | all
  · exact call.window_pos.trans_le stalled.1
  · rw [finalEpoch, all]
    omega

/-- Training with another call goes the same way as long as it finds the same losses. -/
theorem runEpochs_congr (other : TrainCall W B K) (epochs : call.epochs = other.epochs)
    (patience : call.patience = other.patience)
    (same : ∀ epoch, 1 ≤ epoch → epoch ≤ finalEpoch torch call optimizer →
      validationLoss torch (call.start optimizer).learning epoch =
        validationLoss torch (other.start optimizer).learning epoch) :
    finalEpoch torch other optimizer = finalEpoch torch call optimizer ∧
      (runEpochs torch other optimizer).bestVal = (runEpochs torch call optimizer).bestVal := by
  -- Only the losses up to the last epoch are looked at.
  have ranks (epoch : Nat) (first : 1 ≤ epoch) (last : epoch ≤ finalEpoch torch call optimizer) :=
    congrArg lossRank (same epoch first last)
  have window : call.window = other.window := by
    rw [TrainCall.window, TrainCall.window, patience]
  have ends : finalEpoch torch other optimizer = finalEpoch torch call optimizer := by
    rw [finalEpoch, ← epochs, ← window]
    exact lastEpoch_congr fun epoch first last =>
      improves_congr first fun earlier begun before => ranks earlier begun (before.trans last)
  refine ⟨ends, ?_⟩
  have atEnd := atEpochEnd_runEpochs torch call optimizer
  have others := atEpochEnd_runEpochs torch other optimizer
  refine lossRank_injective others.number atEnd.number ?_
  rw [others.best, atEnd.best, ends]
  exact (bestLoss_congr ranks).symm

variable {torch call optimizer}

section Best

variable {epoch : Nat} {progress : Progress W O B K}

/-- No epoch that was run has a lower loss than the best one. -/
theorem AtEpochEnd.bestVal_le (atEnd : AtEpochEnd torch call optimizer epoch progress) {earlier : Nat}
    (first : 1 ≤ earlier) (last : earlier ≤ epoch) :
    ¬ validationLoss torch (call.start optimizer).learning earlier < progress.bestVal := by
  -- The best loss is the least one so far.
  rw [lt_iff_lossRank atEnd.number, atEnd.best, not_lt]
  exact bestLoss_le first last

/-- The best loss is that of an epoch, or infinite. -/
theorem AtEpochEnd.bestVal_attained (atEnd : AtEpochEnd torch call optimizer epoch progress) :
    progress.bestVal = .infinity ∨ ∃ earlier, 1 ≤ earlier ∧ earlier ≤ epoch ∧
      progress.bestVal = validationLoss torch (call.start optimizer).learning earlier := by
  have infinite (top : lossRank progress.bestVal = lossRank .infinity) : progress.bestVal = .infinity :=
    lossRank_injective atEnd.number (by simp) top
  rcases bestLoss_attained ⊤
    (fun epoch => lossRank (validationLoss torch (call.start optimizer).learning epoch)) epoch with
    none | ⟨earlier, first, last, same⟩
  · exact .inl (infinite (atEnd.best.trans none))
  · have place := atEnd.best.trans same
    by_cases number : validationLoss torch (call.start optimizer).learning earlier = .nan
    · -- A loss that is no number has the place of infinity.
      rw [number] at place
      exact .inl (infinite place)
    · exact .inr ⟨earlier, first, last, lossRank_injective atEnd.number number place⟩

/-- The best loss is that of an epoch if all losses are numbers. -/
theorem AtEpochEnd.bestVal_mem (atEnd : AtEpochEnd torch call optimizer epoch progress) (begins : 1 ≤ epoch)
    (numbers : ∀ earlier, 1 ≤ earlier → earlier ≤ epoch →
      validationLoss torch (call.start optimizer).learning earlier ≠ .nan) :
    ∃ earlier, 1 ≤ earlier ∧ earlier ≤ epoch ∧
      progress.bestVal = validationLoss torch (call.start optimizer).learning earlier := by
  rcases atEnd.bestVal_attained with infinite | attained
  · -- The first loss is then infinite as well.
    have above := atEnd.bestVal_le le_rfl begins
    rw [lt_iff_lossRank atEnd.number, not_lt, infinite] at above
    exact ⟨1, le_rfl, begins, lossRank_injective atEnd.number (numbers 1 le_rfl begins)
      (infinite ▸ (top_le_iff.mp above).symm)⟩
  · exact attained

/-- The best loss is some number exactly when it is the least one. -/
theorem AtEpochEnd.bestVal_eq_iff (atEnd : AtEpochEnd torch call optimizer epoch progress) {latest : Nat}
    (first : 1 ≤ latest) (last : latest ≤ epoch) :
    progress.bestVal = validationLoss torch (call.start optimizer).learning latest ↔
      validationLoss torch (call.start optimizer).learning latest ≠ .nan ∧
        ∀ earlier, 1 ≤ earlier → earlier ≤ epoch →
          ¬ validationLoss torch (call.start optimizer).learning earlier <
            validationLoss torch (call.start optimizer).learning latest := by
  constructor
  · intro same
    rw [← same]
    exact ⟨atEnd.number, fun earlier first last => atEnd.bestVal_le first last⟩
  · intro least
    obtain ⟨number, lowest⟩ := least
    refine lossRank_injective atEnd.number number (le_antisymm ?_ ?_)
    · rw [atEnd.best]
      exact bestLoss_le first last
    · -- The best loss is infinite or that of an epoch, none of which is lower.
      rcases atEnd.bestVal_attained with infinite | ⟨earlier, first, last, same⟩
      · rw [infinite]
        exact le_top
      · rw [same]
        exact not_lt.mp (mt (lt_iff_lossRank number).mpr (lowest earlier first last))

end Best

/-! ### Calls -/

/-- A call whose optimizer can be made runs the epochs, saves a checkpoint if there is a path for it, and
returns the best loss. -/
theorem trainAutoencoder_eq (formats : Formats W (Json (ExtFloat K)) C) (host : Host)
    (made : torch.adam call.model call.learningRate = .ok optimizer) :
    trainAutoencoder torch formats host call = (do
      saveCheckpoint formats host call (runEpochs torch call optimizer)
      return (runEpochs torch call optimizer).bestVal) := by
  -- The optimizer is made, so the loop runs.
  rw [trainAutoencoder, made]
  rfl

section Returns

variable {formats : Formats W (Json (ExtFloat K)) C} {host : Host} {machine after : Machine C}

/-- What a call returns is the best loss. -/
theorem bestVal_of_returns {value : ExtFloat K}
    (made : torch.adam call.model call.learningRate = .ok optimizer)
    (ran : (trainAutoencoder torch formats host call).run machine = (.ok value, after)) :
    (runEpochs torch call optimizer).bestVal = value := by
  rw [trainAutoencoder_eq formats host made] at ran
  -- A saving that raised would have ended the call.
  rcases ended : (saveCheckpoint formats host call (runEpochs torch call optimizer)).run machine with
    ⟨outcome | ⟨⟩, middle⟩
  · rw [Session.run_bind_error ended] at ran
    cases ran
  · rw [Session.run_bind_ok ended] at ran
    cases ran
    rfl

/-- A call that is not to save a checkpoint returns the best loss, and leaves the machine as it is. -/
theorem trainAutoencoder_unsaved (formats : Formats W (Json (ExtFloat K)) C) (host : Host)
    (made : torch.adam call.model call.learningRate = .ok optimizer) (unsaved : call.savePath = none)
    (machine : Machine C) :
    (trainAutoencoder torch formats host call).run machine =
      (.ok (runEpochs torch call optimizer).bestVal, machine) := by
  -- Without a path nothing is written.
  rw [trainAutoencoder_eq formats host made, saveCheckpoint, unsaved]
  rfl

end Returns
end Absm
