import Mathlib.Analysis.SpecialFunctions.Log.Base
import Mathlib.Analysis.SpecialFunctions.Pow.Real
import Absm.Foundation.RoundedFloat
import Absm.Foundation.Rounding
import Absm.Proofs.Enrich.PeerRanks

/-! How far below the mean of their peers users can be ranked. -/

namespace Absm

/-- Powers of floats above one: they are exact, and refused above the largest float; with an infinite
exponent they are infinite or zero. -/
noncomputable instance {format : FloatFormat ℝ} : FloatPow (Rounded format) where
  pow base exponent :=
    match base.value, exponent.value with
    | .finite base, .finite exponent =>
      if base ^ exponent ≤ format.largest then .ok (.finite (base ^ exponent))
      else .error (.overflowError "(34, 'Numerical result out of range')")
    -- What is infinite already is not out of range.
    | .finite _, .infinity => .ok ⟨.infinity⟩
    | .finite _, .negInfinity => .ok (.finite 0)
    | _, _ => .ok ⟨.nan⟩

section Percentiles

variable {format : FloatFormat ℝ}

open Rounded (finite rounding)

/-! ### Percentiles of floats -/

/-- The bounds of percentiles, and the percentile without a deviation, are floats. -/
theorem percentile_literals (format : FloatFormat ℝ) :
    (0.0 : Rounded format) = finite 0 ∧ (50.0 : Rounded format) = finite 50 ∧
      (100.0 : Rounded format) = finite 100 := by
  -- Each of the literals is a whole number.
  have whole (n : Int) (small : |n| ≤ 2 ^ 53) :
      (⟨rounding format (n : ℝ)⟩ : Rounded format) = finite (n : ℝ) :=
    congrArg Rounded.mk (Rounded.rounding_whole format small)
  have zero := whole 0 (by decide)
  have fifty := whole 50 (by decide)
  have hundred := whole 100 (by decide)
  refine ⟨?_, ?_, ?_⟩
  · show (⟨rounding format (0.0 : ℝ)⟩ : Rounded format) = _
    norm_num at zero ⊢
    exact zero
  · show (⟨rounding format (50.0 : ℝ)⟩ : Rounded format) = _
    norm_num at fifty ⊢
    exact fifty
  · show (⟨rounding format (100.0 : ℝ)⟩ : Rounded format) = _
    norm_num at hundred ⊢
    exact hundred

/-- The slope in the exponent is a float between one and two. -/
theorem slope_literal (format : FloatFormat ℝ) :
    (-1.702 : Rounded format) = finite (-format.round 1.702) ∧ 1 ≤ format.round 1.702 ∧
      format.round 1.702 ≤ 2 := by
  -- It lies between these whole numbers, and so does what it is rounded to.
  have above : ((1 : Int) : ℝ) ≤ 1.702 := by norm_num
  have below : 1.702 ≤ ((2 : Int) : ℝ) := by norm_num
  have literal := Rounded.rounding_between format above below (by decide) (by decide)
  refine ⟨congrArg (fun x => (⟨-x⟩ : Rounded format)) literal.1, ?_, ?_⟩
  · exact_mod_cast literal.2.1
  · exact_mod_cast literal.2.2

/-- The base of the power is a float of at least two. -/
theorem base_literal (format : FloatFormat ℝ) :
    (2.718281828 : Rounded format) = finite (format.round 2.718281828) ∧
      2 ≤ format.round 2.718281828 := by
  -- Two and three are whole numbers, and the base lies between them.
  have above : ((2 : Int) : ℝ) ≤ 2.718281828 := by norm_num
  have below : 2.718281828 ≤ ((3 : Int) : ℝ) := by norm_num
  have between := Rounded.rounding_between format above below (by decide) (by decide)
  refine ⟨congrArg Rounded.mk between.1, ?_⟩
  exact_mod_cast between.2.1

/-- What is confined to the interval between zero and one hundred lies in it, even if it is no number. -/
theorem confined_mem (x : Rounded format) :
    finite 0 ≤ pyMax (finite 0) (pyMin (finite 100) x) ∧
      pyMax (finite 0) (pyMin (finite 100) x) ≤ (finite 100 : Rounded format) := by
  have ordered : (0 : ℝ) ≤ 100 := by norm_num
  have atMost : pyMin (finite 100) x = finite 100 ∨ pyMin (finite 100) x = ⟨.negInfinity⟩ ∨
      ∃ value < 100, pyMin (finite 100) x = (finite value : Rounded format) := by
    -- Only what is less than one hundred is taken instead of it.
    rcases x with ⟨value | _ | _ | _⟩
    · by_cases less : value < 100
      · exact .inr (.inr ⟨value, less, if_pos (decide_eq_true less)⟩)
      · exact .inl (if_neg fun smaller => less (of_decide_eq_true smaller))
    · exact .inl rfl
    · exact .inl rfl
    · exact .inr (.inl rfl)
  rcases atMost with same | same | ⟨value, less, same⟩
  · rw [same]
    have above : pyMax (finite 0) (finite 100) = (finite 100 : Rounded format) :=
      if_pos (decide_eq_true (show (0 : ℝ) < 100 by norm_num))
    rw [above, Rounded.finite_le_iff, Rounded.finite_le_iff]
    exact ⟨ordered, le_rfl⟩
  · rw [same]
    have above : pyMax (finite 0) ⟨.negInfinity⟩ = (finite 0 : Rounded format) := rfl
    rw [above, Rounded.finite_le_iff, Rounded.finite_le_iff]
    exact ⟨le_rfl, ordered⟩
  · rw [same]
    by_cases positive : 0 < value
    · have above : pyMax (finite 0) (finite value) = (finite value : Rounded format) :=
        if_pos (decide_eq_true positive)
      rw [above, Rounded.finite_le_iff, Rounded.finite_le_iff]
      exact ⟨positive.le, less.le⟩
    · have above : pyMax (finite 0) (finite value) = (finite 0 : Rounded format) :=
        if_neg fun larger => positive (of_decide_eq_true larger)
      rw [above, Rounded.finite_le_iff, Rounded.finite_le_iff]
      exact ⟨le_rfl, ordered⟩

/-- A percentile that is found lies between zero and one hundred. -/
theorem toPercentile_mem {value mean std percentile : Rounded format}
    (found : toPercentile value mean std = .ok percentile) : 0.0 ≤ percentile ∧ percentile ≤ 100.0 := by
  -- It is the middle of the interval, or confined to the interval.
  obtain ⟨zero, fifty, hundred⟩ := percentile_literals format
  unfold toPercentile at found
  split at found
  · cases found
    rw [zero, fifty, hundred, Rounded.finite_le_iff, Rounded.finite_le_iff]
    norm_num
  · simp only [bind_eq_ok, pure_eq_ok, Except.ok.injEq] at found
    obtain ⟨power, _, rfl⟩ := found
    rw [zero, hundred]
    exact confined_mem _

/-! ### Powers that are too large -/

/-- A value is so far below a mean, counted in deviations, that the exponent for its percentile has a power
beyond the largest float. An exponent that overflows itself is infinite, and not meant. -/
def TooFarBelow (format : FloatFormat ℝ) (value mean std : ℝ) : Prop :=
  -- The exponent is the one that the operations on floats give.
  ∃ exponent : ℝ, (-1.702 * ((finite value - finite mean) / finite std) : Rounded format) = finite exponent ∧
    format.largest < format.round 2.718281828 ^ exponent

/-- A percentile is found exactly when there is no deviation or the value is not too far below the mean. -/
theorem percentile_found_iff (value mean std : ℝ) :
    (∃ percentile, toPercentile (finite value) (finite mean) (finite std : Rounded format) = .ok percentile) ↔
      (0 < std → ¬ TooFarBelow format value mean std) := by
  obtain ⟨zero, -, -⟩ := percentile_literals format
  rw [toPercentile_ok_iff, zero, Rounded.finite_le_iff, not_le, (base_literal format).1, TooFarBelow]
  refine forall_congr' fun spread => ?_
  -- What can go wrong is the power, and only with a finite exponent.
  rcases (-1.702 * ((finite value - finite mean) / finite std) : Rounded format) with ⟨exponent | _ | _ | _⟩
  · show (∃ power, (if format.round 2.718281828 ^ exponent ≤ format.largest then Except.ok _ else _) =
      Except.ok power) ↔ _
    split
    case isTrue small => simpa [finite] using small
    case isFalse large => simpa [finite] using large
  · exact iff_of_true ⟨_, rfl⟩ fun tooFar => by simp [finite] at tooFar
  · exact iff_of_true ⟨_, rfl⟩ fun tooFar => by simp [finite] at tooFar
  · exact iff_of_true ⟨_, rfl⟩ fun tooFar => by simp [finite] at tooFar

/-- How many deviations below the mean a value is whose power is the largest float. -/
noncomputable def overflowDistance (largest : ℝ) : ℝ :=
  -- The exponent grows with the distance, by the slope for each deviation.
  Real.logb 2.718281828 largest / 1.702

/-- A power is larger than the largest float exactly beyond the distance. -/
theorem largest_lt_power_iff {largest value mean std : ℝ} (positive : 0 < largest) (spread : 0 < std) :
    largest < (2.718281828 : ℝ) ^ (-1.702 * ((value - mean) / std)) ↔
      overflowDistance largest * std < mean - value := by
  -- The exponent is compared with the logarithm.
  have exponent : -1.702 * ((value - mean) / std) = 1.702 * ((mean - value) / std) := by ring
  rw [← Real.logb_lt_iff_lt_rpow (by norm_num) positive, exponent, overflowDistance, ← lt_div_iff₀ spread,
    div_lt_iff₀ (by norm_num), mul_comm]

/-- A special exponent has no power that could be too large. -/
theorem not_finite_power {exponent : ExtFloat ℝ} (special : ¬ exponent.IsFinite) {large : ℝ → Prop} :
    ¬ ∃ number : ℝ, (⟨exponent⟩ : Rounded format) = finite number ∧ large number := by
  -- A number would be finite.
  rintro ⟨number, same, _⟩
  obtain rfl : exponent = .finite number := congrArg Rounded.value same
  exact special trivial

/-- If nothing is rounded, a value is too far below the mean when it lies beyond the distance, and neither the
difference nor the product overflows. -/
theorem tooFarBelow_iff (unrounded : ∀ x, format.round x = x) {value mean std : ℝ} (spread : 0 < std) :
    TooFarBelow format value mean std ↔ overflowDistance format.largest * std < mean - value ∧
      mean - value ≤ format.largest ∧ 1.702 * (mean - value) ≤ format.largest * std := by
  have large : (1 : ℝ) ≤ format.largest := le_trans (by norm_num) format.large
  have far : 0 ≤ overflowDistance format.largest * std :=
    mul_nonneg (div_nonneg (Real.logb_nonneg (by norm_num) large) (by norm_num)) spread.le
  have slope := (slope_literal format).1
  rw [unrounded] at slope
  have down : (-1.702 : ℝ) < 0 := by norm_num
  rw [TooFarBelow, slope, Rounded.finite_sub]
  -- The difference overflows, or the quotient does, or the product, or none of them.
  rcases Rounded.rounding_cases format (value - mean) with
    ⟨tooLarge, same⟩ | ⟨tooSmall, same⟩ | ⟨fits, -, same⟩
  · rw [same, Rounded.infinity_div spread, Rounded.mul_infinity down]
    rw [unrounded] at tooLarge
    exact iff_of_false (not_finite_power id) fun far => by linarith [far.1]
  · rw [same, Rounded.negInfinity_div spread, Rounded.mul_negInfinity down]
    rw [unrounded] at tooSmall
    exact iff_of_false (not_finite_power id) fun far => by linarith [far.2.1]
  rw [same, unrounded]
  show (∃ exponent, finite (-1.702) * (finite (value - mean) / finite std) = finite exponent ∧ _) ↔ _
  rw [Rounded.finite_div _ spread.ne']
  have scaled : (value - mean) / std * std = value - mean := div_mul_cancel₀ _ spread.ne'
  rcases Rounded.rounding_cases format ((value - mean) / std) with
    ⟨tooLarge, same⟩ | ⟨tooSmall, same⟩ | ⟨-, -, same⟩
  · rw [same, Rounded.mul_infinity down]
    rw [unrounded, lt_div_iff₀ spread] at tooLarge
    exact iff_of_false (not_finite_power id) fun far => by nlinarith [far.1]
  · rw [same, Rounded.mul_negInfinity down]
    rw [unrounded, div_lt_iff₀ spread] at tooSmall
    exact iff_of_false (not_finite_power id) fun far => by nlinarith [far.2.2]
  rw [same, unrounded]
  show (∃ exponent, finite (-1.702) * finite ((value - mean) / std) = finite exponent ∧ _) ↔ _
  rw [Rounded.finite_mul]
  have product : -1.702 * ((value - mean) / std) * std = 1.702 * (mean - value) := by
    rw [mul_assoc, scaled]
    ring
  rcases Rounded.rounding_cases format (-1.702 * ((value - mean) / std)) with
    ⟨tooLarge, same⟩ | ⟨tooSmall, same⟩ | ⟨-, most, same⟩
  · rw [same]
    rw [unrounded] at tooLarge
    exact iff_of_false (not_finite_power id) fun far => by nlinarith [far.2.2]
  · rw [same]
    rw [unrounded] at tooSmall
    exact iff_of_false (not_finite_power id) fun far => by nlinarith [far.1]
  · -- The power of a finite exponent is what the distance is about.
    rw [same, unrounded, unrounded]
    rw [unrounded] at fits most
    have close : mean - value ≤ format.largest := by linarith
    have small : 1.702 * (mean - value) ≤ format.largest * std := by
      rw [← product]
      exact mul_le_mul_of_nonneg_right most spread.le
    rw [and_iff_left ⟨close, small⟩, ← largest_lt_power_iff (by linarith) spread]
    constructor
    · rintro ⟨exponent, is, larger⟩
      cases is
      exact larger
    · exact fun larger => ⟨_, rfl, larger⟩

/-- The comparison of a user whose features and statistics are finite ranks all features exactly when no
feature is too far below its mean; if nothing is rounded, that is a matter of the distance. -/
theorem compareFloats_ranksAll_iff {room : Nat} {file : PeerStatsFile}
    {featureVec : Dict String (Rounded format)} {role : String} {allStats roleStats : Json (Rounded format)}
    (userId : String) (value mean std : String → ℝ) (loaded : loadPeerStats room file = .ok allStats)
    (found : allStats.get role (.object []) = .ok roleStats)
    (values : ∀ feature ∈ featureVec.entries, feature.2 = finite (value feature.1))
    (statistics : ∀ feature ∈ featureVec.entries,
      HasStatistics roleStats feature (finite (mean feature.1)) (finite (std feature.1))) :
    (RanksAll featureVec (compareToPeers room file userId featureVec role) ↔
      ∀ feature ∈ featureVec.entries, 0 < std feature.1 →
        ¬ TooFarBelow format (value feature.1) (mean feature.1) (std feature.1)) ∧
      ((∀ x, format.round x = x) → ∀ value mean std, 0 < std →
        (TooFarBelow format value mean std ↔ overflowDistance format.largest * std < mean - value ∧
          mean - value ≤ format.largest ∧ 1.702 * (mean - value) ≤ format.largest * std)) := by
  refine ⟨?_, fun unrounded value mean std spread => tooFarBelow_iff unrounded spread⟩
  -- Each feature must have its percentile.
  refine (ranksAll_iff (fun name => finite (mean name)) (fun name => finite (std name))
    (fun _ _ _ _ => toPercentile_mem) loaded found statistics).trans
      (forall₂_congr fun feature member => ?_)
  rw [values feature member]
  exact percentile_found_iff (value feature.1) (mean feature.1) (std feature.1)

end Percentiles

/-! ### Doubles -/

/-- The largest finite double. -/
noncomputable def largestDouble : ℝ := 2.0 ^ 1024 - 2.0 ^ 971

/-- It lies one unit in the last place below a power of two. -/
theorem largestDouble_eq : largestDouble = 2 ^ 1024 - 2 ^ 971 := by
  -- The literal is the number two.
  have two : (2.0 : ℝ) = 2 := by norm_num
  rw [largestDouble, two]

/-- The doubles, which are rounded to the nearest one; those next to zero are as precise as the others. -/
noncomputable def doubles : FloatFormat ℝ where
  -- The precision is that of IEEE doubles, and the exponent is bounded above only.
  round := rounded 2 53
  largest := largestDouble
  monotone _ _ le := rounded_mono (by decide) (by decide) le
  whole n small := by
    have few : |n| ≤ ((2 : Nat) : Int) ^ 53 := by exact_mod_cast small
    have representable : Representable 2 53 ((n : ℝ) * ((2 : Nat) : ℝ) ^ (0 : Int)) :=
      representable_of_le (by decide) (by decide) few 0
    rw [zpow_zero, mul_one] at representable
    exact rounded_of_representable (by decide) (by decide) representable
  large := by
    have small : (2 : ℝ) ^ 971 ≤ 2 ^ 1023 := pow_le_pow_right₀ (by norm_num) (by norm_num)
    have least : ((2 ^ 53 : Int) : ℝ) ≤ 2 ^ 1023 := by
      rw [Int.cast_pow, Int.cast_ofNat]
      exact pow_le_pow_right₀ (by norm_num) (by norm_num)
    rw [largestDouble_eq, le_sub_iff_add_le, pow_succ (2 : ℝ) 1023, mul_two]
    exact add_le_add least small

/-- Mean and deviation that a file has for a feature, when they are integers. -/
def integerStatistics (K : Type) [JsonFloat K] (room : Nat) (file : PeerStatsFile) (role name : String) :
    Option (Int × Int) :=
  -- Each level has to be an object, and the two entries have to be integers.
  match loadPeerStats (K := K) room file with
  | .ok (.object roles) =>
    match lookupEntry role roles with
    | some (.object features) =>
      match lookupEntry name features with
      | some (.object entries) =>
        match lookupEntry "mean" entries, lookupEntry "std" entries with
        | some (.int mean), some (.int std) => some (mean, std)
        | _, _ => none
      | _ => none
    | _ => none
  | _ => none

/-- Integers that a file has are what the feature is compared with, unless they have too many digits. -/
theorem statistics_of_integers {room : Nat} {file : PeerStatsFile} {role name : String} {mean std : Int}
    (integers : integerStatistics (Rounded doubles) room file role name = some (mean, std))
    (meanSmall : |mean| ≤ 2 ^ 53) (stdSmall : |std| ≤ 2 ^ 53) (value : Rounded doubles) :
    ∃ allStats roleStats : Json (Rounded doubles), loadPeerStats room file = .ok allStats ∧
      allStats.get role (.object []) = .ok roleStats ∧
      HasStatistics roleStats (name, value) (Rounded.finite (mean : ℝ)) (Rounded.finite (std : ℝ)) := by
  have converted {n : Int} (small : |n| ≤ 2 ^ 53) :
      castFloat (.int n : Json (Rounded doubles)) = .ok (Rounded.finite (n : ℝ)) := by
    have whole := Rounded.rounding_whole doubles small
    simp only [castFloat, FloatCast.ofInt, whole]
  -- Each of the dictionaries on the way has the entry.
  unfold integerStatistics at integers
  split at integers
  case h_2 => cases integers
  case h_1 roles loaded =>
    split at integers
    case h_2 => cases integers
    case h_1 features hasRole =>
      split at integers
      case h_2 => cases integers
      case h_1 entries hasFeature =>
        split at integers
        case h_2 => cases integers
        case h_1 hasMean hasStd =>
          cases integers
          exact ⟨_, .object features, loaded, by simp [Json.get, hasRole], .object entries, .int mean,
            .int std, by simp [Json.get, hasFeature], by simp [Json.get, hasMean], converted meanSmall,
            by simp [Json.get, hasStd], converted stdSmall⟩

/-- The statistics of analysts, of which one is unusual. -/
def analystStats : PeerStatsFile :=
  some "\x7b\"analyst\":\x7b\"login_hour\":\x7b\"mean\":2000,\"std\":1\x7d\x7d\x7d".toList

/-- The mean is two thousand, and the deviation is one. -/
theorem analystStats_integers :
    integerStatistics (Rounded doubles) 300 analystStats "analyst" "login_hour" = some (2000, 1) := by
  -- The document is read as it stands.
  decide +kernel

/-- A user with one feature. -/
noncomputable def loginHour (value : Int) : Dict String (Rounded doubles) :=
  .ofList [("login_hour", Rounded.finite (value : ℝ))]

/-- What a user with one feature is compared with. -/
theorem analystStats_statistics (value : Int) :
    ∃ allStats roleStats : Json (Rounded doubles), loadPeerStats 300 analystStats = .ok allStats ∧
      allStats.get "analyst" (.object []) = .ok roleStats ∧
      ∀ feature ∈ (loginHour value).entries, feature.2 = Rounded.finite (value : ℝ) ∧
        HasStatistics roleStats feature (Rounded.finite ((2000 : Int) : ℝ)) (Rounded.finite ((1 : Int) : ℝ)) := by
  -- The file has the integers, and both are small.
  obtain ⟨allStats, roleStats, loaded, found, statistics⟩ :=
    statistics_of_integers analystStats_integers (by decide) (by decide) (Rounded.finite (value : ℝ))
  refine ⟨allStats, roleStats, loaded, found, fun feature member => ?_⟩
  obtain rfl := List.mem_singleton.mp member
  exact ⟨rfl, statistics⟩

/-- The exponent for the percentile of a whole number of deviations, here one each. -/
theorem exponent_wholes {value mean : Int} (few : |value - mean| ≤ 2 ^ 53) :
    (-1.702 * ((Rounded.finite (value : ℝ) - Rounded.finite (mean : ℝ)) / Rounded.finite ((1 : Int) : ℝ)) :
      Rounded doubles) = ⟨Rounded.rounding doubles (-doubles.round 1.702 * ((value - mean : Int) : ℝ))⟩ := by
  -- Neither the difference nor the quotient is rounded.
  have difference := Rounded.rounding_whole doubles few
  rw [(slope_literal doubles).1, Rounded.finite_sub, ← Int.cast_sub, difference]
  show Rounded.finite _ * (Rounded.finite _ / _) = _
  rw [Rounded.finite_div _ (by norm_num), Int.cast_one, div_one, difference]
  exact Rounded.finite_mul ..

/-- A user who logs in at the mean is ranked. -/
theorem compareFloats_ranksAll_iff_mean :
    RanksAll (loginHour 2000) (compareToPeers 300 analystStats "alice" (loginHour 2000) "analyst") := by
  obtain ⟨allStats, roleStats, loaded, found, features⟩ := analystStats_statistics 2000
  refine (compareFloats_ranksAll_iff "alice" (fun _ => ((2000 : Int) : ℝ)) (fun _ => ((2000 : Int) : ℝ))
    (fun _ => ((1 : Int) : ℝ)) loaded found (fun feature member => (features feature member).1)
    fun feature member => (features feature member).2).1.mpr fun feature member _ tooFar => ?_
  -- The power is one.
  obtain ⟨exponent, is, large⟩ := tooFar
  have none := Rounded.rounding_whole doubles (show |0| ≤ 2 ^ 53 by decide)
  rw [exponent_wholes (by decide), sub_self, Int.cast_zero, mul_zero, ← Int.cast_zero, none] at is
  cases is
  rw [Int.cast_zero, Real.rpow_zero] at large
  have one := (Rounded.whole_between doubles (show |1| ≤ 2 ^ 53 by decide)).2
  rw [Int.cast_one] at one
  exact absurd large (not_lt.mpr one)

/-- Two thousand deviations are too many. -/
theorem tooFarBelow_thousands : TooFarBelow doubles ((0 : Int) : ℝ) ((2000 : Int) : ℝ) ((1 : Int) : ℝ) := by
  -- The exponent is between these multiples of the number of deviations.
  obtain ⟨-, steep, flat⟩ := slope_literal doubles
  have above : ((2000 : Int) : ℝ) ≤ -doubles.round 1.702 * ((0 - 2000 : Int) : ℝ) := by
    push_cast
    linarith
  have below : -doubles.round 1.702 * ((0 - 2000 : Int) : ℝ) ≤ ((4000 : Int) : ℝ) := by
    push_cast
    linarith
  have exponent := Rounded.rounding_between doubles above below (by decide) (by decide)
  refine ⟨_, (exponent_wholes (by decide)).trans (congrArg Rounded.mk exponent.1), ?_⟩
  have many : (2000 : ℝ) ≤ doubles.round (-doubles.round 1.702 * ((0 - 2000 : Int) : ℝ)) := by
    exact_mod_cast exponent.2.1
  have base := (base_literal doubles).2
  -- The power is at least that of two.
  calc largestDouble < 2 ^ 1024 := by
        rw [largestDouble_eq]
        exact sub_lt_self _ (by positivity)
    _ ≤ (2 : ℝ) ^ 2000 := pow_le_pow_right₀ (by norm_num) (by norm_num)
    _ = (2 : ℝ) ^ (2000 : ℝ) := (Real.rpow_ofNat 2 2000).symm
    _ ≤ 2 ^ doubles.round (-doubles.round 1.702 * ((0 - 2000 : Int) : ℝ)) :=
        Real.rpow_le_rpow_of_exponent_le (by norm_num) many
    _ ≤ doubles.round 2.718281828 ^ doubles.round (-doubles.round 1.702 * ((0 - 2000 : Int) : ℝ)) :=
        Real.rpow_le_rpow (by norm_num) base (by linarith)

/-- A user who logs in two thousand deviations below the mean is not ranked, although all numbers are
finite. -/
theorem compareFloats_ranksAll_fails :
    (∃ allStats roleStats : Json (Rounded doubles), loadPeerStats 300 analystStats = .ok allStats ∧
        allStats.get "analyst" (.object []) = .ok roleStats ∧
        HasStatistics roleStats ("login_hour", Rounded.finite ((0 : Int) : ℝ))
          (Rounded.finite ((2000 : Int) : ℝ)) (Rounded.finite ((1 : Int) : ℝ))) ∧
      ¬ RanksAll (loginHour 0) (compareToPeers 300 analystStats "alice" (loginHour 0) "analyst") := by
  obtain ⟨allStats, roleStats, loaded, found, features⟩ := analystStats_statistics 0
  have only : ("login_hour", Rounded.finite ((0 : Int) : ℝ)) ∈ (loginHour 0).entries :=
    List.mem_singleton.mpr rfl
  refine ⟨⟨allStats, roleStats, loaded, found, (features _ only).2⟩, fun all => ?_⟩
  -- The percentile would need a power beyond the largest float.
  have ranked := (ranksAll_iff (fun _ => Rounded.finite ((2000 : Int) : ℝ))
    (fun _ => Rounded.finite ((1 : Int) : ℝ)) (fun _ _ _ _ => toPercentile_mem) loaded found
    fun feature member => (features feature member).2).mp all _ only
  exact (percentile_found_iff _ _ _).mp ranked (by norm_num) tooFarBelow_thousands

end Absm
