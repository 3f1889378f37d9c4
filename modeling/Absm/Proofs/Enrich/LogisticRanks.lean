import Mathlib.Analysis.SpecialFunctions.Pow.Real
import Mathlib.Analysis.SpecialFunctions.Sigmoid
import Absm.Proofs.Enrich.PeerRanks

/-! Percentiles of real numbers: they are a sigmoid function of the distance from the mean. -/

namespace Absm

/-- Powers of reals, which are all exact. -/
@[reducible] noncomputable def exactPower : FloatPow ℝ :=
  -- Real powers never overflow.
  ⟨fun base exponent => .ok (base ^ exponent)⟩

/-- The percentile of a real number. -/
noncomputable def realPercentile (value mean std : ℝ) : Except PyError ℝ :=
  -- Only the power is chosen; the percentile is that of the source.
  letI := exactPower
  toPercentile value mean std

/-- One over one more than a power is the sigmoid of the exponent, in the scale of the base. -/
theorem inv_one_add_rpow_neg {base : ℝ} (positive : 0 < base) (exponent : ℝ) :
    1 / (1 + base ^ (-exponent)) = Real.sigmoid (Real.log base * exponent) := by
  -- The power is an exponential function of the logarithm.
  rw [Real.sigmoid_def, Real.rpow_def_of_pos positive, mul_neg, one_div]

/-- How steep percentiles are. -/
noncomputable def steepness : ℝ := Real.log 2.718281828 * 1.702

/-- Percentiles are steep upwards. -/
theorem steepness_pos : 0 < steepness :=
  -- Base and slope are greater than one and zero.
  mul_pos (Real.log_pos (by norm_num)) (by norm_num)

/-- The share of one hundred that stands for a distance from the mean, counted in deviations. -/
noncomputable def share (distance : ℝ) : ℝ := 100.0 * Real.sigmoid (steepness * distance)

/-- A percentile is a share strictly between zero and one hundred. -/
theorem share_mem (distance : ℝ) : 0 < share distance ∧ share distance < 100 := by
  -- The sigmoid lies strictly between zero and one.
  have positive := Real.sigmoid_pos (steepness * distance)
  have below := Real.sigmoid_lt_one (steepness * distance)
  unfold share
  constructor <;> linarith

/-- Shares grow with the distance. -/
theorem share_strictMono : StrictMono share := by
  -- Steepness and factor are positive, so the sigmoid decides.
  intro near far nearer
  have steeper := mul_lt_mul_of_pos_left nearer steepness_pos
  exact mul_lt_mul_of_pos_left (Real.sigmoid_strictMono steeper) (by norm_num)

/-- Without a distance the share is the half. -/
theorem share_zero : share 0 = 50 := by
  -- The sigmoid of zero is one half.
  rw [share, mul_zero, Real.sigmoid_zero]
  norm_num

/-- Opposite distances have shares that make up one hundred. -/
theorem share_add_share_neg (distance : ℝ) : share distance + share (-distance) = 100 := by
  -- The sigmoid has this symmetry around zero.
  have hundred : (100.0 : ℝ) = 100 := by norm_num
  rw [share, share, mul_neg, Real.sigmoid_neg, hundred]
  ring

/-- A number strictly inside an interval is not changed when it is confined to the interval. -/
theorem pyMax_pyMin_of_mem {K : Type} [LinearOrder K] {low high value : K} (above : low < value)
    (below : value < high) : pyMax low (pyMin high value) = value := by
  -- Neither bound is reached.
  rw [pyMin, if_pos below, pyMax, if_pos above]

/-- The share of a distance is what the formula for the percentile gives. -/
theorem share_eq (distance : ℝ) :
    share distance = 100.0 / (1.0 + 2.718281828 ^ (-1.702 * distance)) := by
  -- The formula is a sigmoid.
  have sigmoid : 1 / (1 + (2.718281828 : ℝ) ^ (-(1.702 * distance))) = _ :=
    inv_one_add_rpow_neg (by norm_num) _
  rw [share, steepness, mul_assoc, ← sigmoid]
  norm_num
  ring

/-- With a deviation, the percentile is the share of the distance from the mean, for confining it to the
interval between zero and one hundred does nothing. -/
theorem realPercentile_eq (value mean : ℝ) {std : ℝ} (spread : 0 < std) :
    realPercentile value mean std = .ok (share ((value - mean) / std)) := by
  -- A share never reaches the ends of the interval.
  obtain ⟨above, below⟩ := share_mem ((value - mean) / std)
  have flat : ¬ std ≤ 0.0 := by
    norm_num
    exact spread
  unfold realPercentile toPercentile
  rw [if_neg flat]
  show Except.ok (pyMax 0.0 (pyMin 100.0
    (100.0 / (1.0 + 2.718281828 ^ (-1.702 * ((value - mean) / std)))))) = _
  rw [← share_eq, pyMax_pyMin_of_mem]
  · norm_num
    exact above
  · norm_num
    exact below

/-- The percentile ranks of peers with a mean and a deviation: they order the values strictly, lie
strictly between zero and one hundred without being confined to it, are fifty at the mean and symmetric
around it, and depend neither on the unit nor on the origin. -/
structure FaithfulRanks (mean std : ℝ) (rank : ℝ → ℝ) : Prop where
  /-- The rank is what the code returns. -/
  returned (value : ℝ) : realPercentile value mean std = .ok (rank value)
  /-- The clamp does not act. -/
  unclamped (value : ℝ) : rank value = 100.0 / (1.0 + 2.718281828 ^ (-1.702 * ((value - mean) / std)))
  /-- A larger value has a larger rank. -/
  increasing : StrictMono rank
  /-- Ranks lie strictly between zero and one hundred. -/
  inside (value : ℝ) : 0 < rank value ∧ rank value < 100
  /-- The mean is in the middle. -/
  middle : rank mean = 50
  /-- Values at the same distance on both sides of the mean have ranks that make up one hundred. -/
  symmetric (distance : ℝ) : rank (mean + distance) + rank (mean - distance) = 100
  /-- The unit does not matter. -/
  scaled (value : ℝ) {factor : ℝ} (positive : 0 < factor) :
    realPercentile (factor * value) (factor * mean) (factor * std) = .ok (rank value)
  /-- The origin does not matter. -/
  shifted (value shift : ℝ) : realPercentile (value + shift) (mean + shift) std = .ok (rank value)

/-- Percentile ranks order peers faithfully. -/
theorem realPercentile_faithful (mean : ℝ) {std : ℝ} (spread : 0 < std) :
    ∃ rank, FaithfulRanks mean std rank := by
  refine ⟨fun value => share ((value - mean) / std), ?_⟩
  exact {
    returned := fun value => realPercentile_eq value mean spread
    unclamped := fun value => share_eq _
    increasing := fun low high lower =>
      share_strictMono (div_lt_div_of_pos_right (sub_lt_sub_right lower mean) spread)
    inside := fun value => share_mem _
    middle := by simp [share_zero]
    symmetric := fun distance => by
      rw [add_sub_cancel_left, sub_sub_cancel_left, neg_div]
      exact share_add_share_neg (distance / std)
    scaled := fun value factor positive => by
      -- The factor is cancelled in the distance.
      have same : (factor * value - factor * mean) / (factor * std) = (value - mean) / std := by
        rw [← mul_sub, mul_div_mul_left _ _ positive.ne']
      rw [← same]
      exact realPercentile_eq _ _ (mul_pos positive spread)
    shifted := fun value shift => by
      rw [← add_sub_add_right_eq_sub value mean shift]
      exact realPercentile_eq _ _ spread }

/-- With the mean zero and the deviation one, the rank of zero is fifty. -/
theorem realPercentile_faithful_standard : ∃ rank, FaithfulRanks 0 1 rank :=
  -- A deviation of one is positive.
  realPercentile_faithful 0 one_pos

end Absm
