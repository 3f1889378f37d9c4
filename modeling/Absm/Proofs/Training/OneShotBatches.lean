import Absm.Proofs.Training.StoppingEpoch

/-! Whether training on iterators returns what training on lists of the same batches returns. -/

namespace Absm

variable {W O B K C : Type}

/-- A collection that every iteration goes through. -/
def Batches.IsList (batches : Batches B) : Prop :=
  -- Only a list can be iterated again.
  ∃ items, batches = .list items

variable [Field K] [LinearOrder K]

/-- The call with lists of the same batches. -/
def TrainCall.listed (call : TrainCall W B K) : TrainCall W B K :=
  -- Both kinds of batches become lists.
  { call with trainBatches := call.trainBatches.listed, valBatches := call.valBatches.listed }

/-- A call returns what it returns on lists, and this is the mean loss on all batches after an epoch, not
the zero of an epoch that has evaluated none. -/
structure ReturnsAsOnLists (torch : Torch W O B K) (call : TrainCall W B K) (optimizer : O)
    (value listedValue : ExtFloat K) : Prop where
  /-- The value is that of the call on lists. -/
  same : value = listedValue
  /-- If there is an epoch, the value is the mean loss after one. -/
  mean : 1 ≤ call.epochs → ∃ epoch, 1 ≤ epoch ∧ epoch ≤ finalEpoch torch call optimizer ∧
    value = evalLossOn torch (learningAfter torch (call.start optimizer).learning epoch).weights
      call.valBatches.iterate.1
  /-- The value is not the loss of no batches. -/
  nonzero : value ≠ 0.0

/-- On lists, no epoch after the first one matters for whatever can be iterated over only once. -/
structure OnceIsEnough (torch : Torch W O B K) (call : TrainCall W B K) (optimizer : O) : Prop where
  /-- An iterator is evaluated in one epoch at most. -/
  evaluation : call.valBatches.IsList ∨ finalEpoch torch call.listed optimizer ≤ 1
  /-- After training on an iterator no epoch has a lower loss than the first one. -/
  training : call.trainBatches.IsList ∨
    ∀ epoch, 1 ≤ epoch → epoch ≤ finalEpoch torch call.listed optimizer →
      ¬ validationLoss torch (call.listed.start optimizer).learning epoch <
        validationLoss torch (call.listed.start optimizer).learning 1

/-! ### Losses above zero -/

section Positive

variable [IsStrictOrderedRing K] {torch : Torch W O B K} {weights : W} {batches : List B}

/-- A sum of losses above zero is above zero once one of them is in it. -/
theorem lossSum_pos {sofar : ExtFloat K × Nat} (above : 0.0 < sofar.1)
    (positive : ∀ batch ∈ batches, 0.0 < torch.lossOn weights batch) :
    0.0 < (batches.foldl (fun sofar batch => (sofar.1 + torch.lossOn weights batch, sofar.2 + 1))
      sofar).1 := by
  -- The induction carries a positive sum.
  induction batches generalizing sofar with
  | nil => exact above
  | cons batch rest ih =>
    exact ih (ExtFloat.zero_lt_add above (positive batch List.mem_cons_self)) fun later member =>
      positive later (List.mem_cons_of_mem batch member)

/-- The mean of losses above zero is above zero. -/
theorem evalLossOn_pos (nonempty : batches ≠ [])
    (positive : ∀ batch ∈ batches, 0.0 < torch.lossOn weights batch) :
    0.0 < evalLossOn torch weights batches := by
  -- A positive sum over a positive count.
  obtain ⟨batch, rest, rfl⟩ := List.exists_cons_of_ne_nil nonempty
  refine ExtFloat.zero_lt_mul_finite (lossSum_pos ?_ fun later member =>
    positive later (List.mem_cons_of_mem batch member)) ?_
  · show 0.0 < 0.0 + torch.lossOn weights batch
    rw [ExtFloat.zero_add]
    exact positive batch List.mem_cons_self
  · exact inv_pos.mpr (Nat.cast_pos.mpr (lt_max_of_lt_right Nat.zero_lt_one))

/-- The mean loss on no batches is zero. -/
theorem evalLossOn_nil : evalLossOn torch weights [] = 0.0 := by
  -- Zero over one.
  show (0.0 : ExtFloat K) * .finite _ = 0.0
  rw [ExtFloat.zero_eq, ExtFloat.finite_mul, zero_mul]

end Positive

/-! ### Iterators that have been gone through -/

section Exhausted

variable {torch : Torch W O B K} {start : Learning W O B} {items valItems : List B}

/-- Once an epoch has evaluated an iterator, nothing is left of it. -/
theorem learningAfter_valIterator (iterator : start.valBatches = .iterator items) (epoch : Nat) :
    (learningAfter torch start (epoch + 1)).valBatches = .iterator [] := by
  -- The first pass uses it up.
  induction epoch with
  | zero =>
    show start.valBatches.iterate.2 = .iterator []
    rw [iterator]
    rfl
  | succ epoch ih =>
    show (learningAfter torch start (epoch + 1)).valBatches.iterate.2 = .iterator []
    rw [ih]
    rfl

/-- From the second epoch on an iterator has no loss to evaluate. -/
theorem validationLoss_valIterator [IsStrictOrderedRing K] (iterator : start.valBatches = .iterator items)
    (epoch : Nat) : validationLoss torch start (epoch + 2) = 0.0 := by
  -- From the second epoch on nothing is evaluated.
  show evalLossOn torch _ (learningAfter torch start (epoch + 1)).valBatches.iterate.1 = 0.0
  rw [learningAfter_valIterator iterator]
  exact evalLossOn_nil

/-- An epoch without batches to train on, and with a list to evaluate, changes nothing. -/
theorem epoch_exhausted {learning : Learning W O B} (exhausted : learning.trainBatches = .iterator [])
    (list : learning.valBatches = .list valItems) :
    (evalLoss torch (epochLoss torch learning).2).2 = learning := by
  -- Neither pass finds anything to change.
  obtain ⟨weights, optimizer, trainBatches, valBatches⟩ := learning
  subst exhausted list
  rfl

/-- Training on an iterator is over after the first epoch. -/
theorem learningAfter_trainIterator (iterator : start.trainBatches = .iterator items)
    (list : start.valBatches = .list valItems) (epoch : Nat) :
    learningAfter torch start (epoch + 1) = learningAfter torch start 1 := by
  -- From the second epoch on nothing is learned.
  induction epoch with
  | zero => rfl
  | succ epoch ih =>
    rw [learningAfter, ih]
    refine epoch_exhausted ?_ (learningAfter_valBatches list 1)
    show start.trainBatches.iterate.2 = .iterator []
    rw [iterator]
    rfl

/-- Without further training all epochs have the loss of the first one. -/
theorem validationLoss_trainIterator (iterator : start.trainBatches = .iterator items)
    (list : start.valBatches = .list valItems) {epoch : Nat} (first : 1 ≤ epoch) :
    validationLoss torch start epoch = validationLoss torch start 1 := by
  -- The weights stay those of the first epoch.
  obtain ⟨before, rfl⟩ := Nat.exists_eq_add_of_le' first
  rw [validationLoss_eq list first, validationLoss_eq list le_rfl, learningAfter_trainIterator iterator list]

end Exhausted

/-! ### Calls -/

section Calls

variable {torch : Torch W O B K} {call : TrainCall W B K} {optimizer : O}

omit [LinearOrder K] in
/-- A call on lists is the one on lists of the same batches. -/
theorem listed_eq_self {items valItems : List B} (train : call.trainBatches = .list items)
    (list : call.valBatches = .list valItems) : call.listed = call := by
  -- Lists are kept.
  cases call
  cases train
  cases list
  rfl

/-- The first epoch finds the same loss on lists, for it goes through all batches in any case. -/
theorem validationLoss_one_listed :
    validationLoss torch (call.start optimizer).learning 1 =
      validationLoss torch (call.listed.start optimizer).learning 1 :=
  -- In the first epoch an iterator gives what its list gives.
  rfl

/-- If one of the two calls ends with the first epoch at the latest, both do, with the same value. -/
theorem runEpochs_listed_short (short : finalEpoch torch call optimizer ≤ 1 ∨
    finalEpoch torch call.listed optimizer ≤ 1) :
    finalEpoch torch call optimizer ≤ 1 ∧ finalEpoch torch call.listed optimizer ≤ 1 ∧
      (runEpochs torch call optimizer).bestVal = (runEpochs torch call.listed optimizer).bestVal := by
  -- Both runs see the same loss in the first epoch.
  rcases short with once | once
  · obtain ⟨ends, value⟩ := runEpochs_congr torch call optimizer call.listed rfl rfl
      fun epoch first last => by
        obtain rfl : epoch = 1 := by omega
        exact validationLoss_one_listed
    exact ⟨once, ends.trans_le once, value.symm⟩
  · obtain ⟨ends, value⟩ := runEpochs_congr torch call.listed optimizer call rfl rfl
      fun epoch first last => by
        obtain rfl : epoch = 1 := by omega
        exact validationLoss_one_listed.symm
    exact ⟨ends.trans_le once, once, value⟩

variable [IsStrictOrderedRing K]

section Losses

variable (nonempty : call.valBatches.iterate.1 ≠ [])
  (positive : ∀ weights, ∀ batch ∈ call.valBatches.iterate.1, 0.0 < torch.lossOn weights batch)

include nonempty positive

/-- On lists every epoch has a loss above zero. -/
theorem validationLoss_listed_pos {epoch : Nat} (first : 1 ≤ epoch) :
    0.0 < validationLoss torch (call.listed.start optimizer).learning epoch := by
  -- Every evaluation has a batch, and each loss is positive.
  have all : validationLoss torch (call.listed.start optimizer).learning epoch =
      evalLossOn torch _ call.valBatches.iterate.1 := validationLoss_eq rfl first
  rw [all]
  exact evalLossOn_pos nonempty (positive _)

/-- Training on an iterator, with a list to evaluate, returns the loss of the first epoch. -/
theorem bestVal_of_trainIterator {items valItems : List B} (iterator : call.trainBatches = .iterator items)
    (list : call.valBatches = .list valItems) (begins : 1 ≤ call.epochs) :
    (runEpochs torch call optimizer).bestVal =
      validationLoss torch (call.listed.start optimizer).learning 1 := by
  -- No later loss is below the first one.
  have above : 0.0 < validationLoss torch (call.listed.start optimizer).learning 1 :=
    validationLoss_listed_pos nonempty positive le_rfl
  have number := ExtFloat.ne_nan_of_zero_lt above
  rw [← validationLoss_one_listed] at number ⊢
  refine ((atEpochEnd_runEpochs torch call optimizer).bestVal_eq_iff le_rfl
    (finalEpoch_pos torch call optimizer begins)).mpr ⟨number, fun epoch first last => ?_⟩
  have same : validationLoss torch (call.start optimizer).learning epoch =
      validationLoss torch (call.start optimizer).learning 1 :=
    validationLoss_trainIterator iterator list first
  rw [same]
  exact ExtFloat.lt_irrefl _

/-- Where evaluation goes through all batches, what is returned is a mean loss on them. -/
theorem bestVal_mean (evaluation : call.valBatches.IsList ∨ finalEpoch torch call optimizer ≤ 1)
    (begins : 1 ≤ call.epochs) :
    ∃ epoch, 1 ≤ epoch ∧ epoch ≤ finalEpoch torch call optimizer ∧
      (runEpochs torch call optimizer).bestVal =
        evalLossOn torch (learningAfter torch (call.start optimizer).learning epoch).weights
          call.valBatches.iterate.1 := by
  -- In either case the validation batches are whole at every epoch that ran.
  have all (epoch : Nat) (first : 1 ≤ epoch) (last : epoch ≤ finalEpoch torch call optimizer) :
      validationLoss torch (call.start optimizer).learning epoch =
        evalLossOn torch (learningAfter torch (call.start optimizer).learning epoch).weights
          call.valBatches.iterate.1 := by
    rcases evaluation with ⟨items, list⟩ | once
    · rw [list]
      exact validationLoss_eq list first
    · obtain rfl : epoch = 1 := by omega
      rfl
  obtain ⟨epoch, first, last, attained⟩ := (atEpochEnd_runEpochs torch call optimizer).bestVal_mem
    (finalEpoch_pos torch call optimizer begins) fun epoch first last => by
      rw [all epoch first last]
      exact ExtFloat.ne_nan_of_zero_lt (evalLossOn_pos nonempty (positive _))
  exact ⟨epoch, first, last, attained.trans (all epoch first last)⟩

/-- A call on batches that are gone through as often as needed returns what it returns on lists. -/
theorem bestVal_same (enough : OnceIsEnough torch call optimizer) :
    (runEpochs torch call optimizer).bestVal = (runEpochs torch call.listed optimizer).bestVal := by
  rcases enough.evaluation with ⟨valItems, list⟩ | once
  case inr => exact (runEpochs_listed_short (.inr once)).2.2
  case inl =>
    rcases trained : call.trainBatches with items | items
    · -- The call is the one on lists.
      rw [listed_eq_self trained list]
    · by_cases begins : 1 ≤ call.epochs
      · rw [bestVal_of_trainIterator nonempty positive trained list begins]
        have above : 0.0 < validationLoss torch (call.listed.start optimizer).learning 1 :=
          validationLoss_listed_pos nonempty positive le_rfl
        rcases enough.training with ⟨trainItems, other⟩ | lowest
        · rw [trained] at other
          cases other
        · exact (((atEpochEnd_runEpochs torch call.listed optimizer).bestVal_eq_iff le_rfl
            (finalEpoch_pos torch call.listed optimizer begins)).mpr
              ⟨ExtFloat.ne_nan_of_zero_lt above, lowest⟩).symm
      · have none : finalEpoch torch call optimizer ≤ call.epochs.toNat := lastEpoch_le _ _ _
        exact (runEpochs_listed_short (.inl (by omega))).2.2

/-- What is returned where once is enough is a mean loss on all batches, and above zero. -/
theorem returnsAsOnLists_of_enough (enough : OnceIsEnough torch call optimizer) :
    ReturnsAsOnLists torch call optimizer (runEpochs torch call optimizer).bestVal
      (runEpochs torch call.listed optimizer).bestVal := by
  have mean := bestVal_mean nonempty positive (enough.evaluation.imp_right fun once =>
    (runEpochs_listed_short (.inr once)).1)
  refine ⟨bestVal_same nonempty positive enough, mean, ?_⟩
  by_cases begins : 1 ≤ call.epochs
  · obtain ⟨epoch, _, _, same⟩ := mean begins
    rw [same]
    exact ExtFloat.ne_zero_of_zero_lt (evalLossOn_pos nonempty (positive _))
  · -- Without an epoch the value is infinite.
    have within : finalEpoch torch call optimizer ≤ call.epochs.toNat := lastEpoch_le _ _ _
    rcases (atEpochEnd_runEpochs torch call optimizer).bestVal_attained with
      infinite | ⟨epoch, first, last, _⟩
    · rw [infinite, ExtFloat.zero_eq]
      simp
    · omega

/-- Only where once is enough a call returns what it returns on lists. -/
theorem enough_of_returnsAsOnLists (returns : ReturnsAsOnLists torch call optimizer
    (runEpochs torch call optimizer).bestVal (runEpochs torch call.listed optimizer).bestVal) :
    OnceIsEnough torch call optimizer := by
  have atEnd := atEpochEnd_runEpochs torch call optimizer
  have onLists := atEpochEnd_runEpochs torch call.listed optimizer
  have permitted : finalEpoch torch call.listed optimizer ≤ call.epochs.toNat := lastEpoch_le _ _ _
  have evaluation : call.valBatches.IsList ∨ finalEpoch torch call.listed optimizer ≤ 1 := by
    rcases evaluated : call.valBatches with items | items
    · exact .inl ⟨items, rfl⟩
    · right
      by_contra long
      -- The second epoch evaluates nothing, and what it finds lies below any mean loss.
      have second : 2 ≤ finalEpoch torch call optimizer := by
        by_contra short
        exact long (runEpochs_listed_short (.inl (by omega))).2.1
      obtain ⟨epoch, _, _, same⟩ := returns.mean (by omega)
      have none : validationLoss torch (call.start optimizer).learning 2 = 0.0 :=
        validationLoss_valIterator evaluated 0
      have above := atEnd.bestVal_le (by decide) second
      rw [none, same] at above
      exact above (evalLossOn_pos nonempty (positive _))
  refine ⟨evaluation, ?_⟩
  rcases trained : call.trainBatches with items | items
  · exact .inl ⟨items, rfl⟩
  · right
    intro epoch first last
    rcases evaluation with ⟨valItems, list⟩ | once
    · -- The value is the loss of the first epoch, and on lists it is the least one.
      rw [← bestVal_of_trainIterator nonempty positive trained list (by omega), returns.same]
      exact onLists.bestVal_le first last
    · obtain rfl : epoch = 1 := by omega
      exact ExtFloat.lt_irrefl _

end Losses

/-- For batches with losses above zero, a call on any collections returns what it returns on lists exactly
when iterators need not be gone through again. -/
theorem oneShotBatches_iff {formats : Formats W (Json (ExtFloat K)) C} {host : Host}
    {machine after listedAfter : Machine C} {value listedValue : ExtFloat K}
    (made : torch.adam call.model call.learningRate = .ok optimizer)
    (nonempty : call.valBatches.iterate.1 ≠ [])
    (positive : ∀ weights, ∀ batch ∈ call.valBatches.iterate.1, 0.0 < torch.lossOn weights batch)
    (ran : (trainAutoencoder torch formats host call).run machine = (.ok value, after))
    (listed : (trainAutoencoder torch formats host call.listed).run machine =
      (.ok listedValue, listedAfter)) :
    ReturnsAsOnLists torch call optimizer value listedValue ↔ OnceIsEnough torch call optimizer := by
  -- One lemma for each direction.
  have listedMade : torch.adam call.listed.model call.listed.learningRate = .ok optimizer := made
  rw [← bestVal_of_returns made ran, ← bestVal_of_returns listedMade listed]
  exact ⟨enough_of_returnsAsOnLists nonempty positive, returnsAsOnLists_of_enough nonempty positive⟩

end Calls

/-! ### Losses that stay the same -/

/-- A library under which every loss is one. -/
def steadyTorch : Torch Nat Unit Nat ℚ :=
  -- The loss is one at every epoch.
  scriptedTorch fun _ => 1

/-- Two epochs of training on one batch, which is given as two collections. -/
def steadyCall (trainBatches valBatches : Batches Nat) : TrainCall Nat Nat ℚ :=
  -- Two epochs, with patience for more.
  scriptedCall ℚ trainBatches valBatches 2 10

/-- What the call returns on an empty disk. -/
def steadyRun (trainBatches valBatches : Batches Nat) :
    Except (Raised RegistryError) (ExtFloat ℚ) × Machine (Nat ⊕ Json (ExtFloat ℚ)) :=
  -- Nothing is saved.
  (trainAutoencoder steadyTorch (scriptedFormats ℚ) plainHost (steadyCall trainBatches valBatches)).run
    (.fresh .bare)

/-- The call returns the best loss. -/
theorem steadyRun_eq (trainBatches valBatches : Batches Nat) :
    steadyRun trainBatches valBatches =
      (.ok (runEpochs steadyTorch (steadyCall trainBatches valBatches) ()).bestVal, .fresh .bare) :=
  -- Without a path the training returns the best loss.
  trainAutoencoder_unsaved _ _ rfl rfl _

/-- The losses are above zero. -/
theorem steady_positive (weights batch : Nat) : 0.0 < steadyTorch.lossOn weights batch :=
  -- One is positive.
  ExtFloat.zero_lt_iff.mpr (.inl ⟨1, rfl, zero_lt_one⟩)

/-- On lists every epoch finds the loss one. -/
theorem findsLosses_steady :
    FindsLosses steadyTorch (steadyCall (.list [0]) (.list [0])) () fun _ => 1 :=
  -- The scripted losses are found.
  findsLosses_scripted _ 2 10

/-- The optimizer is made. -/
theorem steady_made (call : TrainCall Nat Nat ℚ) : steadyTorch.adam call.model call.learningRate = .ok () :=
  -- The optimizer of the script is always made.
  rfl

/-- Where no epoch has a lower loss than the first one, batches to train on may be given as an iterator. -/
theorem oneShotBatches_iff_steady :
    ReturnsAsOnLists steadyTorch (steadyCall (.iterator [0]) (.list [0])) ()
      (runEpochs steadyTorch (steadyCall (.iterator [0]) (.list [0])) ()).bestVal
      (runEpochs steadyTorch (steadyCall (.list [0]) (.list [0])) ()).bestVal := by
  -- The loss never changes, so one epoch is as good as two.
  have made := steady_made (steadyCall (.iterator [0]) (.list [0]))
  have nonempty : (steadyCall (.iterator [0]) (.list [0])).valBatches.iterate.1 ≠ [] := List.cons_ne_nil 0 []
  refine (oneShotBatches_iff made nonempty (fun weights batch _ => steady_positive weights batch)
    (steadyRun_eq (.iterator [0]) (.list [0])) (steadyRun_eq (.list [0]) (.list [0]))).mpr
    ⟨.inl ⟨[0], rfl⟩, .inr fun epoch first last => ?_⟩
  have same : validationLoss steadyTorch ((steadyCall (.list [0]) (.list [0])).start ()).learning epoch =
      validationLoss steadyTorch ((steadyCall (.list [0]) (.list [0])).start ()).learning 1 := by
    rw [findsLosses_steady epoch first, findsLosses_steady 1 le_rfl]
  exact same ▸ ExtFloat.lt_irrefl _

/-- With batches to evaluate given as an iterator, the second epoch evaluates none of them, and its zero is
returned in place of the loss one. -/
theorem oneShotBatches_fails :
    (steadyRun (.list [0]) (.iterator [0])).1 = .ok 0.0 ∧
      (steadyRun (.list [0]) (.list [0])).1 = .ok (.finite 1) ∧
      ¬ ReturnsAsOnLists steadyTorch (steadyCall (.list [0]) (.iterator [0])) () 0.0 (.finite 1) :=
  -- The second evaluation has no batches and gives zero.
  ⟨by decide +kernel, by decide +kernel, fun returns => returns.nonzero rfl⟩

end Absm
