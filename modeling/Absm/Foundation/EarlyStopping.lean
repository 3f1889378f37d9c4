import Mathlib.Order.Lattice.Nat
import Mathlib.Order.Bounds.Basic
import Mathlib.Order.MinMax

/-! Early stopping: which of a sequence of losses are improvements, how long there has been none, and
when training ends for the lack of them. Epochs are counted from one. -/

namespace Absm

/-! ### Improvements -/

section Losses

variable {α : Type} [LinearOrder α] {start : α} {losses : Nat → α}

/-- The best of a start and the losses of the first epochs. -/
def bestLoss (start : α) (losses : Nat → α) : Nat → α
  -- The epochs are numbered from one on.
  | 0 => start
  | epoch + 1 => min (bestLoss start losses epoch) (losses (epoch + 1))

/-- The loss of an epoch is below the start and all losses of earlier epochs. -/
def Improves (start : α) (losses : Nat → α) (epoch : Nat) : Prop :=
  -- Being lower than all earlier losses is stricter than being lower than the previous one.
  losses epoch < start ∧ ∀ earlier, 1 ≤ earlier → earlier < epoch → losses epoch < losses earlier

/-- What lies below the best loss lies below the start and all losses. -/
theorem lt_bestLoss_iff {value : α} {epoch : Nat} :
    value < bestLoss start losses epoch ↔
      value < start ∧ ∀ earlier, 1 ≤ earlier → earlier ≤ epoch → value < losses earlier := by
  -- The induction adds one epoch at the end, which is below the value's bound or not.
  induction epoch with
  | zero =>
    refine (and_iff_left fun earlier first last => ?_).symm
    omega
  | succ epoch ih =>
    rw [bestLoss, lt_min_iff, ih, and_assoc]
    refine and_congr_right fun _ => ⟨?_, ?_⟩
    · intro below earlier first last
      rcases Nat.lt_or_eq_of_le last with before | rfl
      · exact below.1 earlier first (Nat.lt_succ_iff.mp before)
      · exact below.2
    · intro below
      exact ⟨fun earlier first last => below earlier first (Nat.le_succ_of_le last),
        below (epoch + 1) (Nat.succ_pos epoch) le_rfl⟩

/-- An epoch improves when its loss is below the best one so far. -/
theorem improves_succ_iff {epoch : Nat} :
    Improves start losses (epoch + 1) ↔ losses (epoch + 1) < bestLoss start losses epoch := by
  -- What is below the best loss is below all that it is the best of.
  rw [lt_bestLoss_iff, Improves]
  simp only [Nat.lt_succ_iff]

instance : DecidablePred (Improves start losses)
  -- The best loss is computed, so it can be compared.
  | 0 => decidable_of_iff (losses 0 < start) (and_iff_left fun earlier first last => by omega).symm
  | epoch + 1 => decidable_of_iff (losses (epoch + 1) < bestLoss start losses epoch) improves_succ_iff.symm

/-- The best loss does not lie above the loss of any epoch that it is the best of. -/
theorem bestLoss_le {earlier epoch : Nat} (first : 1 ≤ earlier) (last : earlier ≤ epoch) :
    bestLoss start losses epoch ≤ losses earlier :=
  -- No loss is below the best one.
  not_lt.mp fun below => lt_irrefl _ ((lt_bestLoss_iff.mp below).2 earlier first last)

/-- The best loss is the start or the loss of an epoch. -/
theorem bestLoss_attained (start : α) (losses : Nat → α) (epoch : Nat) :
    bestLoss start losses epoch = start ∨
      ∃ earlier, 1 ≤ earlier ∧ earlier ≤ epoch ∧ bestLoss start losses epoch = losses earlier := by
  -- In each epoch either the old best stays or the new loss is the best one.
  induction epoch with
  | zero => exact .inl rfl
  | succ epoch ih =>
    rw [bestLoss]
    rcases min_choice (bestLoss start losses epoch) (losses (epoch + 1)) with old | new
    · rw [old]
      exact ih.imp id fun ⟨earlier, first, last, same⟩ => ⟨earlier, first, Nat.le_succ_of_le last, same⟩
    · exact .inr ⟨epoch + 1, Nat.succ_pos epoch, le_rfl, new⟩

/-- The best loss depends on the losses up to its epoch. -/
theorem bestLoss_congr {other : Nat → α} {epoch : Nat}
    (same : ∀ earlier, 1 ≤ earlier → earlier ≤ epoch → losses earlier = other earlier) :
    bestLoss start losses epoch = bestLoss start other epoch := by
  -- Only the epochs up to this one are looked at.
  induction epoch with
  | zero => rfl
  | succ epoch ih =>
    rw [bestLoss, bestLoss, same (epoch + 1) (Nat.succ_pos epoch) le_rfl,
      ih fun earlier first last => same earlier first (Nat.le_succ_of_le last)]

/-- Whether an epoch improves depends on the losses up to it. -/
theorem improves_congr {other : Nat → α} {epoch : Nat} (first : 1 ≤ epoch)
    (same : ∀ earlier, 1 ≤ earlier → earlier ≤ epoch → losses earlier = other earlier) :
    Improves start losses epoch ↔ Improves start other epoch := by
  -- Only the epochs up to this one are compared.
  obtain ⟨before, rfl⟩ := Nat.exists_eq_add_of_le' first
  rw [improves_succ_iff, improves_succ_iff, same (before + 1) first le_rfl,
    bestLoss_congr fun earlier first last => same earlier first (Nat.le_succ_of_le last)]

/-- The best loss does not get worse. -/
theorem bestLoss_anti {earlier epoch : Nat} (before : earlier ≤ epoch) :
    bestLoss start losses epoch ≤ bestLoss start losses earlier := by
  -- Each epoch can only lower it.
  induction before with
  | refl => exact le_rfl
  | step _ ih => exact (min_le_left _ _).trans ih

end Losses

/-! ### Patience -/

section Patience

variable {improves : Nat → Prop}

/-- How many epochs there has been no improvement for, at the end of an epoch. -/
def idleEpochs (improves : Nat → Prop) [DecidablePred improves] : Nat → Nat
  -- An improvement starts the count anew.
  | 0 => 0
  | epoch + 1 => if improves (epoch + 1) then 0 else idleEpochs improves epoch + 1

/-- The last epochs up to one, as many as there is patience for, brought no improvement. -/
def Stalled (improves : Nat → Prop) (patience epoch : Nat) : Prop :=
  -- The recent epochs are as many as there is patience for.
  patience ≤ epoch ∧ ∀ recent, epoch < recent + patience → recent ≤ epoch → ¬ improves recent

/-- There has been no improvement for some epochs exactly when these brought none. -/
theorem le_idleEpochs_iff [DecidablePred improves] {patience epoch : Nat} :
    patience ≤ idleEpochs improves epoch ↔ Stalled improves patience epoch := by
  -- One more epoch without an improvement is one more that brought none.
  induction epoch generalizing patience with
  | zero =>
    refine (and_iff_left_of_imp fun none recent late last => ?_).symm
    have nothing : patience ≤ 0 := none
    omega
  | succ epoch ih =>
    rw [idleEpochs]
    split
    case isTrue better =>
      constructor
      · intro none
        obtain rfl : patience = 0 := Nat.le_zero.mp none
        exact ⟨Nat.zero_le _, fun recent late last => by omega⟩
      · intro stalled
        by_contra some
        exact stalled.2 (epoch + 1) (by omega) le_rfl better
    case isFalse worse =>
      cases patience with
      | zero => exact iff_of_true (Nat.zero_le _) ⟨Nat.zero_le _, fun recent late last => by omega⟩
      | succ patience =>
        rw [Nat.succ_le_succ_iff, ih]
        refine and_congr Nat.succ_le_succ_iff.symm ⟨?_, ?_⟩
        · intro none recent late last
          rcases Nat.lt_or_eq_of_le last with before | rfl
          · exact none recent (by omega) (Nat.lt_succ_iff.mp before)
          · exact worse
        · intro none recent late last
          exact none recent (by omega) (by omega)

/-- With more patience, training is stalled later. -/
theorem Stalled.anti {patience more epoch : Nat} (stalled : Stalled improves more epoch)
    (fewer : patience ≤ more) : Stalled improves patience epoch :=
  -- With less patience fewer epochs have to be idle.
  ⟨fewer.trans stalled.1, fun recent late last => stalled.2 recent (by omega) last⟩

/-- Whether training is stalled depends on the epochs from the first one on. -/
theorem stalled_congr {other : Nat → Prop} {epoch : Nat}
    (same : ∀ recent, 1 ≤ recent → recent ≤ epoch → (improves recent ↔ other recent)) (patience : Nat) :
    Stalled improves patience epoch ↔ Stalled other patience epoch := by
  -- Epochs before the first one are not among the recent ones.
  refine and_congr_right fun within => forall_congr' fun recent => ?_
  constructor
  · intro none late last better
    exact none late last ((same recent (by omega) last).mpr better)
  · intro none late last better
    exact none late last ((same recent (by omega) last).mp better)

/-- The epoch that training ends with: the first one after which it is stalled, or the last permitted
one. -/
noncomputable def lastEpoch (improves : Nat → Prop) (patience epochs : Nat) : Nat :=
  -- The set is not empty, since the last permitted epoch is in it.
  sInf {epoch | Stalled improves patience epoch ∨ epoch = epochs}

/-- Training does not end before this epoch. -/
theorem isLeast_lastEpoch (improves : Nat → Prop) (patience epochs : Nat) :
    IsLeast {epoch | Stalled improves patience epoch ∨ epoch = epochs}
      (lastEpoch improves patience epochs) :=
  -- The infimum of a set of numbers that is not empty lies in it.
  ⟨Nat.sInf_mem ⟨epochs, .inr rfl⟩, fun _ member => Nat.sInf_le member⟩

/-- Training ends with a permitted epoch. -/
theorem lastEpoch_le (improves : Nat → Prop) (patience epochs : Nat) :
    lastEpoch improves patience epochs ≤ epochs :=
  -- The last permitted epoch is a candidate.
  (isLeast_lastEpoch improves patience epochs).2 (.inr rfl)

/-- Where training ends depends on the epochs up to there. -/
theorem lastEpoch_congr {other : Nat → Prop} {patience epochs : Nat}
    (same : ∀ epoch, 1 ≤ epoch → epoch ≤ lastEpoch improves patience epochs →
      (improves epoch ↔ other epoch)) :
    lastEpoch other patience epochs = lastEpoch improves patience epochs := by
  have least := isLeast_lastEpoch improves patience epochs
  have agree (epoch : Nat) (before : epoch ≤ lastEpoch improves patience epochs) :
      Stalled improves patience epoch ↔ Stalled other patience epoch :=
    stalled_congr (fun recent first last => same recent first (last.trans before)) patience
  refine (isLeast_lastEpoch other patience epochs).unique
    ⟨least.1.imp_left (agree _ le_rfl).mp, fun epoch member => ?_⟩
  -- An epoch before the end would have ended the training itself.
  by_contra early
  have before := (not_le.mp early).le
  exact early (least.2 (member.imp_left (agree epoch before).mpr))

/-- Training with more patience ends with the same epoch or a later one. -/
theorem lastEpoch_mono {patience more : Nat} (fewer : patience ≤ more) (epochs : Nat) :
    lastEpoch improves patience epochs ≤ lastEpoch improves more epochs :=
  -- Where training with more patience has ended, training with less has stalled.
  (isLeast_lastEpoch improves patience epochs).2
    ((isLeast_lastEpoch improves more epochs).1.imp_left fun stalled => stalled.anti fewer)

end Patience
end Absm
