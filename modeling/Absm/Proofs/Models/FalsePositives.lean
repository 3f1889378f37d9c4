import Absm.Models.ThresholdCalibrator

/-! Which score the calibration chooses, and how many of the scores lie above it. -/

namespace Absm

variable {K : Type} [Field K] [LinearOrder K] [IsStrictOrderedRing K] [FloorRing K]

/-- The position of the chosen score in ascending order. -/
def calibratedRank (count : Nat) (fprTarget : K) : Nat :=
  -- The index of the quantile, rounded up.
  ⌈(1 - fprTarget) * ((count - 1 : Int) : K)⌉.toNat

/-- How many of the scores lie above a threshold. -/
def scoresAbove (threshold : K) (scores : List K) : Nat :=
  -- Scores equal to the threshold are not counted.
  scores.countP fun score => threshold < score

/-- The rounded share is a position of the list. -/
theorem ceil_share {count : Nat} (positive : 0 < count) {fprTarget : K}
    (inside : 0 < fprTarget ∧ fprTarget < 1) :
    0 ≤ ⌈(1 - fprTarget) * ((count - 1 : Int) : K)⌉ ∧
      ⌈(1 - fprTarget) * ((count - 1 : Int) : K)⌉ ≤ (count : Int) - 1 := by
  -- The share lies between nothing and all but one of the scores.
  have others : (0 : K) ≤ ((count - 1 : Int) : K) := Int.cast_nonneg (by omega)
  refine ⟨Int.ceil_nonneg (mul_nonneg (by linarith [inside.2]) others), Int.ceil_le.mpr ?_⟩
  exact mul_le_of_le_one_left others (by linarith [inside.1])

/-- The chosen position is one of the list, and less than one behind the exact share. -/
theorem calibratedRank_spec {count : Nat} (positive : 0 < count) {fprTarget : K}
    (inside : 0 < fprTarget ∧ fprTarget < 1) :
    calibratedRank count fprTarget < count ∧
      (1 - fprTarget) * ((count : K) - 1) ≤ calibratedRank count fprTarget ∧
      calibratedRank count fprTarget < (1 - fprTarget) * ((count : K) - 1) + 1 := by
  -- Rounding up moves by less than one.
  obtain ⟨nonneg, atMost⟩ := ceil_share positive inside
  have size : ((count - 1 : Int) : K) = (count : K) - 1 := by push_cast; rfl
  have exact : ((calibratedRank count fprTarget : Nat) : K) =
      (⌈(1 - fprTarget) * ((count - 1 : Int) : K)⌉ : K) := by
    rw [calibratedRank, ← Int.cast_natCast, Int.toNat_of_nonneg nonneg]
  rw [exact, ← size]
  refine ⟨?_, Int.le_ceil _, Int.ceil_lt_add_one _⟩
  unfold calibratedRank
  omega

/-- The calibration chooses the score at this position, without any clamping. -/
theorem calibrate_eq {scores : List K} (nonempty : scores ≠ []) {fprTarget : K}
    (inside : 0 < fprTarget ∧ fprTarget < 1)
    (below : calibratedRank scores.length fprTarget < (ascending scores).length) :
    calibrate scores fprTarget = .ok (ascending scores)[calibratedRank scores.length fprTarget] := by
  -- The rounded share is a position of the list already, so clamping leaves it alone.
  have zero : (0.0 : K) = 0 := by norm_num
  have one : (1.0 : K) = 1 := by norm_num
  obtain ⟨nonneg, atMost⟩ := ceil_share (List.length_pos_iff.mpr nonempty) inside
  have unclamped : min (max ⌈(1 - fprTarget) * ((scores.length - 1 : Int) : K)⌉ 0)
      ((scores.length : Int) - 1) = ⌈(1 - fprTarget) * ((scores.length - 1 : Int) : K)⌉ := by
    rw [max_eq_left nonneg, min_eq_left atMost]
  rw [calibrate, if_neg nonempty, zero, one, if_neg (not_not.mpr inside)]
  simp only [length_ascending, unclamped]
  rw [← calibratedRank, getItem_eq below]

/-- The chosen score has at most the target's share of the other scores above it. -/
theorem scoresAbove_le {scores : List K} (nonempty : scores ≠ []) {fprTarget : K}
    (inside : 0 < fprTarget ∧ fprTarget < 1)
    (below : calibratedRank scores.length fprTarget < (ascending scores).length) :
    (scoresAbove (ascending scores)[calibratedRank scores.length fprTarget] scores : K) ≤
      fprTarget * ((scores.length : K) - 1) := by
  obtain ⟨-, atLeast, -⟩ := calibratedRank_spec (List.length_pos_iff.mpr nonempty) inside
  -- The chosen score does not exceed itself, so no more scores do than there are positions behind it.
  have few : ¬ scores.length ≤ calibratedRank scores.length fprTarget +
      scoresAbove (ascending scores)[calibratedRank scores.length fprTarget] scores :=
    fun many => lt_irrefl _ ((lt_ascending_iff _ scores below).mpr many)
  have room : ((calibratedRank scores.length fprTarget +
      scoresAbove (ascending scores)[calibratedRank scores.length fprTarget] scores + 1 : Nat) : K) ≤
      (scores.length : K) := Nat.cast_le.mpr (by omega)
  push_cast at room
  linarith

/-- A smaller score has more than the target's share of the other scores above it. -/
theorem lt_scoresAbove {scores : List K} (nonempty : scores ≠ []) {fprTarget : K}
    (inside : 0 < fprTarget ∧ fprTarget < 1)
    (below : calibratedRank scores.length fprTarget < (ascending scores).length) {score : K}
    (smaller : score < (ascending scores)[calibratedRank scores.length fprTarget]) :
    fprTarget * ((scores.length : K) - 1) < scoresAbove score scores := by
  obtain ⟨-, -, lessThan⟩ := calibratedRank_spec (List.length_pos_iff.mpr nonempty) inside
  -- The chosen score and all behind it exceed the smaller one.
  have many : ((scores.length : Nat) : K) ≤
      ((calibratedRank scores.length fprTarget + scoresAbove score scores : Nat) : K) :=
    Nat.cast_le.mpr ((lt_ascending_iff _ scores below).mp smaller)
  push_cast at many
  linarith

/-- A larger target chooses no later position. -/
theorem calibratedRank_anti (count : Nat) {fprTarget larger : K} (order : fprTarget ≤ larger)
    (positive : 0 < count) : calibratedRank count larger ≤ calibratedRank count fprTarget := by
  -- The rank falls as the target grows.
  have others : (0 : K) ≤ ((count - 1 : Int) : K) := Int.cast_nonneg (by omega)
  exact Int.toNat_le_toNat (Int.ceil_le_ceil (mul_le_mul_of_nonneg_right (by linarith) others))

/-- The calibration chooses the smallest of the scores that has at most the target's share of the other
scores above it; so it keeps below the target, does not depend on the order of the scores, and does not
choose a greater score for a greater target. -/
theorem calibrate_tight (scores : List K) (nonempty : scores ≠ []) (fprTarget : K)
    (inside : 0 < fprTarget ∧ fprTarget < 1) :
    ∃ threshold ∈ scores, calibrate scores fprTarget = .ok threshold ∧
      (scoresAbove threshold scores : K) ≤ fprTarget * ((scores.length : K) - 1) ∧
      (∀ score ∈ scores, score < threshold →
        fprTarget * ((scores.length : K) - 1) < scoresAbove score scores) ∧
      (scoresAbove threshold scores : K) / scores.length ≤ fprTarget ∧
      (∀ others, scores.Perm others → calibrate others fprTarget = .ok threshold) ∧
      ∀ larger, fprTarget ≤ larger → larger < 1 →
        ∃ lower, calibrate scores larger = .ok lower ∧ lower ≤ threshold := by
  have positive := List.length_pos_iff.mpr nonempty
  have below : calibratedRank scores.length fprTarget < (ascending scores).length := by
    rw [length_ascending]
    exact (calibratedRank_spec positive inside).1
  have few := scoresAbove_le nonempty inside below
  refine ⟨(ascending scores)[calibratedRank scores.length fprTarget],
    (ascending_perm scores).mem_iff.mp (List.getElem_mem below), calibrate_eq nonempty inside below, few,
    fun score _ smaller => lt_scoresAbove nonempty inside below smaller, ?_, ?_, ?_⟩
  · rw [div_le_iff₀ (Nat.cast_pos.mpr positive)]
    linarith [inside.1]
  · -- Another order of the scores has the same length and the same ascending order.
    intro others perm
    have otherNonempty : others ≠ [] := fun empty => nonempty (List.perm_nil.mp (empty ▸ perm))
    have sorted := ascending_congr perm
    have otherBelow : calibratedRank others.length fprTarget < (ascending others).length := by
      rwa [← perm.length_eq, ← sorted]
    rw [calibrate_eq otherNonempty inside otherBelow]
    simp only [← perm.length_eq, ← sorted]
  · intro larger order less
    have other := And.intro (inside.1.trans_le order) less
    have earlier := calibratedRank_anti scores.length order positive
    exact ⟨_, calibrate_eq nonempty other (earlier.trans_lt below), ascending_mono scores earlier below⟩

omit [FloorRing K] in
/-- The default target is one that the calibration accepts. -/
theorem defaultFprTarget_inside : (0.0 : K) < defaultFprTarget ∧ (defaultFprTarget : K) < 1.0 := by
  -- One per cent, as the guard demands.
  constructor <;> norm_num [defaultFprTarget]

/-- The first five positive integers, as scores. -/
def fiveScores : List ℚ :=
  -- Unordered, for the calibration sorts them.
  [5, 3, 1, 4, 2]

/-- Half of the four other scores lie above the one in the middle. -/
theorem calibrate_tight_five :
    ∃ threshold ∈ fiveScores, calibrate fiveScores (1 / 2) = .ok threshold ∧
      (scoresAbove threshold fiveScores : ℚ) ≤ 1 / 2 * ((fiveScores.length : ℚ) - 1) ∧
      (∀ score ∈ fiveScores, score < threshold →
        1 / 2 * ((fiveScores.length : ℚ) - 1) < scoresAbove score fiveScores) ∧
      (scoresAbove threshold fiveScores : ℚ) / fiveScores.length ≤ 1 / 2 ∧
      (∀ others, fiveScores.Perm others → calibrate others (1 / 2) = .ok threshold) ∧
      ∀ larger, 1 / 2 ≤ larger → larger < 1 →
        ∃ lower, calibrate fiveScores larger = .ok lower ∧ lower ≤ threshold :=
  -- The median of five.
  calibrate_tight fiveScores (by decide) (1 / 2) (by norm_num)

example : calibrate fiveScores (1 / 2) = .ok 3 := by decide +kernel

end Absm
