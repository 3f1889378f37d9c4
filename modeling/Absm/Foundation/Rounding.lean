import Mathlib.Algebra.Order.Round
import Mathlib.Data.Int.Log
import Mathlib.Tactic.Linarith
import Mathlib.Tactic.Positivity
import Mathlib.Tactic.Ring

/-! Rounding of exact numbers to a fixed number of digits in a base, with ties to even. -/

namespace Absm

variable {K : Type} [Field K] [LinearOrder K] [IsStrictOrderedRing K] [FloorRing K]

/-! ### Whole numbers -/

/-- The nearest whole number, and the even one of two that are equally near. -/
def nearestWhole (x : K) : Int :=
  -- What is halfway goes to the even one of the two.
  let lost := Int.fract x
  if lost < 1 - lost ∨ (lost = 1 - lost ∧ Even ⌊x⌋) then ⌊x⌋ else ⌊x⌋ + 1

/-- No more than one half is lost. -/
theorem abs_nearestWhole_sub_le (x : K) : |(nearestWhole x : K) - x| ≤ 1 / 2 := by
  -- What is lost is the fraction, or what the fraction lacks to one.
  have whole : (⌊x⌋ : K) + Int.fract x = x := Int.floor_add_fract x
  have nonneg : 0 ≤ Int.fract x := Int.fract_nonneg x
  have below : Int.fract x < 1 := Int.fract_lt_one x
  simp only [nearestWhole]
  split_ifs with down
  · have small : Int.fract x ≤ 1 - Int.fract x := down.elim le_of_lt fun tie => tie.1.le
    rw [abs_le]
    constructor <;> linarith
  · have large : 1 - Int.fract x ≤ Int.fract x := not_lt.mp fun small => down (.inl small)
    push_cast
    rw [abs_le]
    constructor <;> linarith

/-- No whole number is nearer. -/
theorem abs_nearestWhole_sub_le_of_int (x : K) (n : Int) : |(nearestWhole x : K) - x| ≤ |(n : K) - x| := by
  by_cases same : nearestWhole x = n
  · rw [same]
  -- Another one is at least one away, and at most half of that has been lost.
  have apart : (1 : K) ≤ |(nearestWhole x : K) - n| := by
    rw [← Int.cast_sub, ← Int.cast_abs]
    exact Int.cast_one_le_of_pos (abs_pos.mpr (sub_ne_zero.mpr same))
  have between := abs_sub_le (nearestWhole x : K) x n
  rw [abs_sub_comm x] at between
  linarith [abs_nearestWhole_sub_le x]

/-- What is within a whole number stays within it. -/
theorem abs_nearestWhole_le {x : K} {n : Int} (small : |x| ≤ n) : |nearestWhole x| ≤ n := by
  -- Half of one more is not enough to reach the next whole number.
  have grown := abs_sub_abs_le_abs_sub (nearestWhole x : K) x
  have lost := abs_nearestWhole_sub_le x
  have below : ((|nearestWhole x| : Int) : K) < ((n + 1 : Int) : K) := by
    push_cast
    linarith
  exact Int.lt_add_one_iff.mp (Int.cast_lt.mp below)

/-! ### Numbers of some digits -/

variable {base digits : Nat}

/-- A number of so many digits in a base, at any scale. -/
def Representable (base digits : Nat) (x : K) : Prop :=
  -- The digits are counted in the base, and the exponent is not limited.
  ∃ m e : Int, |m| < (base : Int) ^ digits ∧ x = m * (base : K) ^ e

omit [LinearOrder K] [IsStrictOrderedRing K] [FloorRing K] in
theorem Representable.neg {x : K} (representable : Representable base digits x) :
    Representable base digits (-x) := by
  -- The sign is no digit.
  obtain ⟨m, e, few, rfl⟩ := representable
  exact ⟨-m, e, by rwa [abs_neg], by rw [Int.cast_neg, neg_mul]⟩

omit [LinearOrder K] [IsStrictOrderedRing K] [FloorRing K] in
/-- A power of the base has one digit. -/
theorem representable_zpow (proper : 1 < base) (filled : 1 ≤ digits) (e : Int) :
    Representable base digits ((base : K) ^ e) := by
  -- One digit that is not zero is enough.
  have power : (1 : Int) < (base : Int) ^ digits :=
    one_lt_pow₀ (Nat.one_lt_cast.mpr proper) (Nat.one_le_iff_ne_zero.mp filled)
  exact ⟨1, e, by simpa using power, by simp⟩

omit [FloorRing K] in
/-- A multiple of a power of the base that just has one digit too many is a power of the base. -/
theorem representable_of_le (proper : 1 < base) (filled : 1 ≤ digits) {m : Int}
    (few : |m| ≤ (base : Int) ^ digits) (e : Int) : Representable base digits ((m : K) * (base : K) ^ e) := by
  -- One digit too many means a power of the base, with its sign.
  rcases few.lt_or_eq with fewer | full
  · exact ⟨m, e, fewer, rfl⟩
  · have nonzero : (base : K) ≠ 0 := Nat.cast_ne_zero.mpr (by omega)
    have power := representable_zpow (K := K) proper filled (digits + e)
    rw [zpow_add₀ nonzero, zpow_natCast] at power
    rcases abs_eq_abs.mp (full.trans (abs_of_pos (by positivity)).symm) with same | negated
    · rw [same, Int.cast_pow, Int.cast_natCast]
      exact power
    · rw [negated, Int.cast_neg, Int.cast_pow, Int.cast_natCast, neg_mul]
      exact power.neg

/-! ### Rounding -/

/-- The distance between the numbers of so many digits that are as large as a given one. -/
def gridStep (base digits : Nat) (x : K) : K :=
  -- The step of the grid depends on how many digits stand before the point.
  (base : K) ^ (Int.log base |x| + 1 - digits)

/-- The nearest number of so many digits. -/
def rounded (base digits : Nat) (x : K) : K :=
  -- The multiples of the step are the numbers of that many digits.
  nearestWhole (x / gridStep base digits x) * gridStep base digits x

@[simp] theorem rounded_zero : rounded base digits (0 : K) = 0 := by simp [rounded, nearestWhole]

section Grid

variable (proper : 1 < base)
include proper

theorem gridStep_pos (digits : Nat) (x : K) : 0 < gridStep base digits x :=
  -- Powers of the base are positive.
  zpow_pos (Nat.cast_pos.mpr (by omega)) _

/-- No more than half of a step is lost. -/
theorem abs_rounded_sub_le_step (x : K) : |rounded base digits x - x| ≤ gridStep base digits x / 2 := by
  -- The step of the grid scales the distance to the nearest whole number.
  have positive := gridStep_pos proper digits x
  have lost := mul_le_mul_of_nonneg_right (abs_nearestWhole_sub_le (x / gridStep base digits x)) positive.le
  rwa [← abs_of_pos positive, ← abs_mul, abs_of_pos positive, sub_mul, div_mul_cancel₀ _ positive.ne',
    one_div_mul_eq_div] at lost

/-- No multiple of the step is nearer. -/
theorem abs_rounded_sub_le_of_multiple (x : K) (n : Int) :
    |rounded base digits x - x| ≤ |n * gridStep base digits x - x| := by
  -- In units of the step, this is about whole numbers.
  have positive := gridStep_pos proper digits x
  have scaled (a : K) : |a * gridStep base digits x - x| =
      |a - x / gridStep base digits x| * gridStep base digits x := by
    rw [← abs_of_pos positive, ← abs_mul, abs_of_pos positive, sub_mul, div_mul_cancel₀ _ positive.ne']
  rw [rounded, scaled, scaled]
  exact mul_le_mul_of_nonneg_right (abs_nearestWhole_sub_le_of_int _ n) positive.le

omit [IsStrictOrderedRing K] in
/-- A multiple of a power of the base that is no less than the step is one of the step. -/
theorem exists_multiple {e : Int} (x : K) (coarse : Int.log base |x| + 1 - digits ≤ e) (m : Int) :
    ∃ n : Int, (n : K) * gridStep base digits x = m * (base : K) ^ e := by
  -- The missing powers of the base go into the factor.
  have nonzero : (base : K) ≠ 0 := Nat.cast_ne_zero.mpr (by omega)
  refine ⟨m * (base : Int) ^ (e - (Int.log base |x| + 1 - digits)).toNat, ?_⟩
  rw [gridStep, Int.cast_mul, Int.cast_pow, Int.cast_natCast, ← zpow_natCast, mul_assoc,
    ← zpow_add₀ nonzero]
  congr 2
  omega

variable (filled : 1 ≤ digits)
include filled

/-- No number of so many digits is nearer. -/
theorem rounded_nearest (x : K) {z : K} (representable : Representable base digits z) :
    |rounded base digits x - x| ≤ |z - x| := by
  obtain ⟨m, e, few, rfl⟩ := representable
  have positive : (0 : K) < base := Nat.cast_pos.mpr (by omega)
  have large : (1 : K) ≤ base := Nat.one_le_cast.mpr proper.le
  by_cases coarse : Int.log base |x| + 1 - digits ≤ e
  · obtain ⟨n, multiple⟩ := exists_multiple proper x coarse m
    exact multiple ▸ abs_rounded_sub_le_of_multiple proper x n
  · by_cases zero : x = 0
    · rw [zero, rounded_zero, sub_self, abs_zero]
      exact abs_nonneg _
    -- The least number of the scale, which is a multiple of the step, lies in between.
    have scale : (base : K) ^ Int.log base |x| ≤ |x| := Int.zpow_log_le_self proper (abs_pos.mpr zero)
    have small : |(m : K) * (base : K) ^ e| ≤ (base : K) ^ Int.log base |x| := by
      have power : (0 : K) < (base : K) ^ e := zpow_pos positive e
      have digit : |(m : K)| ≤ (base : K) ^ (digits : Int) := by
        rw [← Int.cast_abs, zpow_natCast]
        exact_mod_cast few.le
      calc |(m : K) * (base : K) ^ e| = |(m : K)| * (base : K) ^ e := by rw [abs_mul, abs_of_pos power]
        _ ≤ (base : K) ^ (digits : Int) * (base : K) ^ e := mul_le_mul_of_nonneg_right digit power.le
        _ = (base : K) ^ (digits + e) := (zpow_add₀ positive.ne' _ _).symm
        _ ≤ (base : K) ^ Int.log base |x| := zpow_le_zpow_right₀ large (by omega)
    have coarser : Int.log base |x| + 1 - digits ≤ Int.log base |x| := by omega
    obtain ⟨n, least⟩ := exists_multiple proper x coarser 1
    rw [Int.cast_one, one_mul] at least
    have further := abs_sub_abs_le_abs_sub x ((m : K) * (base : K) ^ e)
    rw [abs_sub_comm x] at further
    rcases abs_cases x with ⟨same, -⟩ | ⟨negated, -⟩
    · refine (abs_rounded_sub_le_of_multiple proper x n).trans ?_
      rw [least, abs_sub_comm, abs_of_nonneg (by linarith)]
      linarith
    · refine (abs_rounded_sub_le_of_multiple proper x (-n)).trans ?_
      rw [Int.cast_neg, neg_mul, least, abs_of_nonneg (by linarith)]
      linarith

/-- Numbers of so many digits stay as they are. -/
theorem rounded_of_representable {x : K} (representable : Representable base digits x) :
    rounded base digits x = x := by
  -- No number is nearer to it than it is itself.
  have nearest := rounded_nearest proper filled x representable
  rw [sub_self, abs_zero] at nearest
  exact sub_eq_zero.mp (abs_nonpos_iff.mp nearest)

/-- What is rounded has so many digits. -/
theorem representable_rounded (x : K) : Representable base digits (rounded base digits x) := by
  have positive := gridStep_pos proper digits x
  have nonzero : (base : K) ≠ 0 := Nat.cast_ne_zero.mpr (by omega)
  refine representable_of_le proper filled (abs_nearestWhole_le ?_) _
  -- A number lies below the next power of the base, which is so many steps away from zero.
  rw [abs_div, abs_of_pos positive, div_le_iff₀ positive, gridStep, Int.cast_pow, Int.cast_natCast,
    ← zpow_natCast, ← zpow_add₀ nonzero, add_sub_cancel]
  exact (Int.lt_zpow_succ_log_self proper |x|).le

/-- Rounding keeps the order. -/
theorem rounded_mono {x y : K} (le : x ≤ y) : rounded base digits x ≤ rounded base digits y := by
  -- Otherwise each of the two would be nearer to the other number.
  by_contra crossed
  have first := rounded_nearest proper filled x (representable_rounded proper filled y)
  have second := rounded_nearest proper filled y (representable_rounded proper filled x)
  grind

/-- Up to a power of the base, no more is lost than half of the last step below it. -/
theorem abs_rounded_sub_le {scale : Int} {x : K} (small : |x| ≤ (base : K) ^ scale) :
    |rounded base digits x - x| ≤ (base : K) ^ (scale - digits) / 2 := by
  have positive : (0 : K) < base := Nat.cast_pos.mpr (by omega)
  have large : (1 : K) ≤ base := Nat.one_le_cast.mpr proper.le
  have nonneg : (0 : K) ≤ (base : K) ^ (scale - digits) / 2 := (half_pos (zpow_pos positive _)).le
  by_cases zero : x = 0
  · rwa [zero, rounded_zero, sub_self, abs_zero]
  rcases small.lt_or_eq with below | full
  · have scaled : Int.log base |x| < scale := (Int.lt_zpow_iff_log_lt proper (abs_pos.mpr zero)).mp below
    refine (abs_rounded_sub_le_step proper x).trans (div_le_div_of_nonneg_right ?_ two_pos.le)
    exact zpow_le_zpow_right₀ large (by omega)
  · -- A power of the base stays as it is.
    have representable : Representable base digits x := by
      rcases (abs_eq (zpow_pos positive _).le).mp full with rfl | rfl
      · exact representable_zpow proper filled scale
      · exact (representable_zpow proper filled scale).neg
    rwa [rounded_of_representable proper filled representable, sub_self, abs_zero]

/-- Numbers that are further apart than the steps between them are kept apart. -/
theorem rounded_lt_rounded {scale : Int} {x y : K} (firstSmall : |x| ≤ (base : K) ^ scale)
    (secondSmall : |y| ≤ (base : K) ^ scale) (apart : x + (base : K) ^ (scale - digits) < y) :
    rounded base digits x < rounded base digits y := by
  -- Each of the two moves by half of the distance at most.
  have first := abs_le.mp (abs_rounded_sub_le proper filled firstSmall)
  have second := abs_le.mp (abs_rounded_sub_le proper filled secondSmall)
  linarith

end Grid
end Absm
