import Absm.Foundation.Json
import Absm.Foundation.Python
import Mathlib.Algebra.Order.Field.Rat
import Mathlib.Algebra.BigOperators.Group.List.Basic
import Mathlib.Data.Rat.Sqrt
import Mathlib.Tactic.NormNum

/-! Floats as exact numbers extended by NaN and the infinities, and what Python computes on floats. -/

namespace Absm

/-- The conversions to floats, and the summaries of the module `statistics`. -/
class Statistics (F : Type) where
  /-- A count as a number. -/
  ofCount : Nat → F
  /-- The call `float` on an integer. -/
  ofInt : Int → Except PyError F
  /-- The mean of some data. -/
  fmean : List F → Except PyError F
  /-- The population standard deviation of some data. -/
  pstdev : List F → Except PyError F
  /-- The sample standard deviation of some data. -/
  stdev : List F → Except PyError F

/-- Summaries do not depend on the order of the data, counts are kept apart, and hours of the day
have summaries. -/
class LawfulStatistics (F : Type) [Statistics F] : Prop where
  /-- Different counts are different numbers. -/
  ofCount_injective {first second : Nat}
    (same : (Statistics.ofCount first : F) = Statistics.ofCount second) : first = second
  /-- The mean is that of any permutation. -/
  fmean_perm {data other : List F} (perm : data.Perm other) :
    Statistics.fmean data = Statistics.fmean other
  /-- The deviation is that of any permutation. -/
  pstdev_perm {data other : List F} (perm : data.Perm other) :
    Statistics.pstdev data = Statistics.pstdev other
  /-- An hour of the day can be converted. -/
  ofInt_hour {hour : Int} (nonnegative : 0 ≤ hour) (below : hour < 24) :
    ∃ value : F, Statistics.ofInt hour = .ok value
  /-- Hours of the day have a mean and a deviation. -/
  hours_summary {data : List F} (nonempty : data ≠ [])
    (hours : ∀ x ∈ data, ∃ hour : Int, 0 ≤ hour ∧ hour < 24 ∧ Statistics.ofInt hour = .ok x) :
    (∃ mean, Statistics.fmean data = .ok mean) ∧ ∃ std, Statistics.pstdev data = .ok std

/-- Numbers that have a square root; nothing is asked of it. -/
class SquareRoot (K : Type) where
  /-- The square root. -/
  sqrt : K → K

instance : SquareRoot ℚ := ⟨Rat.sqrt⟩

/-- A float: an exact number, or one of the special values. -/
inductive ExtFloat (K : Type) where
  /-- A finite float. -/
  | finite (value : K)
  /-- Not a number. -/
  | nan
  /-- Positive infinity. -/
  | infinity
  /-- Negative infinity. -/
  | negInfinity
  deriving DecidableEq

namespace ExtFloat

variable {K : Type}

/-- Whether a float is a number other than the infinities. -/
def IsFinite : ExtFloat K → Prop
  -- Neither the infinities nor what is no number is finite.
  | .finite _ => True
  | _ => False

instance : DecidablePred (IsFinite (K := K))
  | .finite _ => .isTrue trivial
  | .nan => .isFalse id
  | .infinity => .isFalse id
  | .negInfinity => .isFalse id

@[simp] theorem isFinite_finite (value : K) : (finite value).IsFinite := trivial

/-- A finite float is an exact number. -/
theorem IsFinite.exists {x : ExtFloat K} (isFinite : x.IsFinite) : ∃ value, x = .finite value := by
  -- Only the first constructor is finite.
  cases x with
  | finite value => exact ⟨value, rfl⟩
  | nan => exact isFinite.elim
  | infinity => exact isFinite.elim
  | negInfinity => exact isFinite.elim

/-! ### Arithmetic -/

section Order

variable [LinearOrder K]

/-- The comparison `<`, false as soon as one side is NaN. -/
protected def lt : ExtFloat K → ExtFloat K → Bool
  -- Nothing is less than what is no number, nor the other way round.
  | .finite x, .finite y => x < y
  | .finite _, .infinity => true
  | .negInfinity, .finite _ => true
  | .negInfinity, .infinity => true
  | _, _ => false

/-- The comparison `<=`, false as soon as one side is NaN. -/
protected def le : ExtFloat K → ExtFloat K → Bool
  -- What is no number is not even at most itself.
  | .finite x, .finite y => x ≤ y
  | .nan, _ => false
  | _, .nan => false
  | .negInfinity, _ => true
  | _, .infinity => true
  | _, _ => false

instance : LT (ExtFloat K) := ⟨fun x y => ExtFloat.lt x y = true⟩

instance : LE (ExtFloat K) := ⟨fun x y => ExtFloat.le x y = true⟩

instance : DecidableLT (ExtFloat K) := fun x y => inferInstanceAs (Decidable (ExtFloat.lt x y = true))

instance : DecidableLE (ExtFloat K) := fun x y => inferInstanceAs (Decidable (ExtFloat.le x y = true))

/-- No float lies below itself. -/
protected theorem lt_irrefl (x : ExtFloat K) : ¬ x < x := by
  -- The infinities are not below themselves, either.
  show ¬ ExtFloat.lt x x = true
  cases x <;> simp [ExtFloat.lt]

end Order

section Arithmetic

variable [Field K]

instance : Neg (ExtFloat K) where
  -- The infinities change places.
  neg
    | .finite x => .finite (-x)
    | .nan => .nan
    | .infinity => .negInfinity
    | .negInfinity => .infinity

instance : Add (ExtFloat K) where
  -- The infinities of different signs have no sum.
  add
    | .finite x, .finite y => .finite (x + y)
    | .nan, _ => .nan
    | _, .nan => .nan
    | .infinity, .negInfinity => .nan
    | .negInfinity, .infinity => .nan
    | .infinity, _ => .infinity
    | _, .infinity => .infinity
    | .negInfinity, _ => .negInfinity
    | _, .negInfinity => .negInfinity

instance : Sub (ExtFloat K) where
  -- Two infinities of one sign have no difference.
  sub x y := x + -y

instance : OfScientific (ExtFloat K) where
  -- Literals are finite.
  ofScientific digits negative exponent := .finite (OfScientific.ofScientific digits negative exponent)

@[simp] theorem neg_finite (x : K) : -(finite x) = finite (-x) := rfl

@[simp] theorem finite_add (x y : K) : finite x + finite y = finite (x + y) := rfl

@[simp] theorem finite_sub (x y : K) : finite x - finite y = finite (x - y) := by
  -- Subtraction adds the negated value.
  show finite (x + -y) = _
  rw [sub_eq_add_neg]

theorem ofScientific_eq (digits : Nat) (negative : Bool) (exponent : Nat) :
    (OfScientific.ofScientific digits negative exponent : ExtFloat K) =
      finite (OfScientific.ofScientific digits negative exponent) := rfl

variable [LinearOrder K]

/-- The infinity with the sign of a number; zero times an infinity is no number. -/
def signedInfinity (sign : K) : ExtFloat K :=
  -- The product of an infinity with zero is no number.
  if 0 < sign then .infinity else if sign < 0 then .negInfinity else .nan

instance : Mul (ExtFloat K) where
  -- The sign of an infinite product is the product of the signs.
  mul
    | .finite x, .finite y => .finite (x * y)
    | .nan, _ => .nan
    | _, .nan => .nan
    | .finite x, .infinity => signedInfinity x
    | .infinity, .finite x => signedInfinity x
    | .finite x, .negInfinity => signedInfinity (-x)
    | .negInfinity, .finite x => signedInfinity (-x)
    | .infinity, .infinity => .infinity
    | .negInfinity, .negInfinity => .infinity
    | .infinity, .negInfinity => .negInfinity
    | .negInfinity, .infinity => .negInfinity

@[simp] theorem finite_mul (x y : K) : finite x * finite y = finite (x * y) := rfl

/-! ### Signs -/

section Positive

variable [IsStrictOrderedRing K] {x y : ExtFloat K}

omit [LinearOrder K] [IsStrictOrderedRing K] in
/-- The literal is the exact zero. -/
theorem zero_eq [CharZero K] : (0.0 : ExtFloat K) = finite 0 := by
  -- The literal is read as a number, and this one is zero.
  rw [ofScientific_eq]
  norm_num

omit [LinearOrder K] [IsStrictOrderedRing K] in
/-- Adding to zero changes nothing. -/
protected theorem zero_add [CharZero K] (x : ExtFloat K) : 0.0 + x = x := by
  -- A special float stays what it is.
  rw [zero_eq]
  cases x with
  | finite value => rw [finite_add, zero_add]
  | nan | infinity | negInfinity => rfl

/-- What lies above zero is an exact number above zero, or infinity. -/
theorem zero_lt_iff : 0.0 < x ↔ (∃ value, x = finite value ∧ 0 < value) ∨ x = infinity := by
  -- Neither what is not a number nor the negative infinity lies above zero.
  rw [zero_eq]
  show ExtFloat.lt (finite 0) x = true ↔ _
  cases x <;> simp [ExtFloat.lt]

/-- Sums of floats above zero are above zero. -/
theorem zero_lt_add (left : 0.0 < x) (right : 0.0 < y) : 0.0 < x + y := by
  -- An infinite part makes the sum infinite.
  rw [zero_lt_iff] at left right ⊢
  rcases left with ⟨first, rfl, above⟩ | rfl
  · rcases right with ⟨second, rfl, positive⟩ | rfl
    · exact .inl ⟨first + second, rfl, add_pos above positive⟩
    · exact .inr rfl
  · rcases right with ⟨second, rfl, _⟩ | rfl
    · exact .inr rfl
    · exact .inr rfl

/-- Multiples of floats above zero are above zero. -/
theorem zero_lt_mul_finite {factor : K} (above : 0.0 < x) (positive : 0 < factor) :
    0.0 < x * finite factor := by
  -- The infinity stays infinite under a positive factor.
  rw [zero_lt_iff] at above ⊢
  rcases above with ⟨value, rfl, below⟩ | rfl
  · exact .inl ⟨value * factor, rfl, mul_pos below positive⟩
  · exact .inr (if_pos positive)

/-- What lies above zero is a number. -/
theorem ne_nan_of_zero_lt (above : 0.0 < x) : x ≠ nan := by
  -- Comparisons with it are false.
  rcases zero_lt_iff.mp above with ⟨value, rfl, _⟩ | rfl
  · simp
  · simp

omit [IsStrictOrderedRing K] in
/-- What lies above zero is not zero. -/
theorem ne_zero_of_zero_lt (above : 0.0 < x) : x ≠ 0.0 := by
  -- Nothing lies above itself.
  rintro rfl
  exact ExtFloat.lt_irrefl _ above

end Positive

/-- The value of decimal digits before a power of ten. -/
def decimal (K : Type) [Field K] (negative : Bool) (digits : Nat) (exponent : Int) : K :=
  -- The sign is that of the whole.
  (if negative then -1 else 1) * (digits : K) * 10 ^ exponent

/-- Decimal digits before a power of ten are read exactly. -/
def ofDecimal (negative : Bool) (digits : Nat) (exponent : Int) : ExtFloat K :=
  .finite (decimal K negative digits exponent)

instance : JsonFloat (ExtFloat K) := ⟨.nan, .infinity, .negInfinity, ofDecimal⟩

/-! ### Summaries -/

/-- The finite floats among some data. -/
def finiteValues (data : List (ExtFloat K)) : List K :=
  -- The special floats are left out.
  data.filterMap fun
    | .finite x => some x
    | _ => none

/-- The sum of some data, which raises when infinities of both signs meet. -/
def fsum (data : List (ExtFloat K)) : Except PyError (ExtFloat K) :=
  -- Two infinities of different signs are looked for first, since they have no sum.
  if .infinity ∈ data ∧ .negInfinity ∈ data then .error (.valueError "-inf + inf in fsum")
  else if .nan ∈ data then .ok .nan
  else if .infinity ∈ data then .ok .infinity
  else if .negInfinity ∈ data then .ok .negInfinity
  else .ok (.finite (finiteValues data).sum)

/-- The mean: the sum divided by the number of data. -/
def fmean (data : List (ExtFloat K)) : Except PyError (ExtFloat K) :=
  -- The sum may be special, and then the mean is.
  if data = [] then .error (.valueError "fmean requires at least one data point")
  else (fsum data).map fun total => total * .finite (data.length : K)⁻¹

/-- The variance of exact numbers. -/
def variance (data : List K) : K :=
  -- The squares are divided by their number.
  (data.map fun x => (x - data.sum / data.length) ^ 2).sum / data.length

/-- The variance that exact numbers let expect where they come from. -/
def sampleVariance (data : List K) : K :=
  -- The squares are divided by one less than their number.
  (data.map fun x => (x - data.sum / data.length) ^ 2).sum / ((data.length : K) - 1)

/-- The population standard deviation, which the interpreter cannot take of special values. -/
def pstdev [SquareRoot K] (data : List (ExtFloat K)) : Except PyError (ExtFloat K) :=
  if data = [] then .error (.valueError "pstdev requires at least one data point")
  else if ∀ x ∈ data, x.IsFinite then .ok (.finite (SquareRoot.sqrt (variance (finiteValues data))))
  -- The quotient of a special sum is a float, which has no numerator to take the root of.
  else .error (.attributeError "'float' object has no attribute 'numerator'")

/-- The sample standard deviation, which the interpreter cannot take of special values either. -/
def stdev [SquareRoot K] (data : List (ExtFloat K)) : Except PyError (ExtFloat K) :=
  -- Special floats have no ratio, and the exact sum of squares asks for one.
  if data.length < 2 then .error (.valueError "stdev requires at least two data points")
  else if ∀ x ∈ data, x.IsFinite then
    .ok (.finite (SquareRoot.sqrt (sampleVariance (finiteValues data))))
  else .error (.attributeError "'float' object has no attribute 'numerator'")

instance [SquareRoot K] : Statistics (ExtFloat K) where
  -- Integers of any size are converted, since the floats are exact.
  ofCount count := .finite count
  ofInt value := .ok (.finite value)
  fmean := fmean
  pstdev := pstdev
  stdev := stdev

omit [Field K] [LinearOrder K] in
/-- Of finite data no element is one of the special values. -/
theorem special_not_mem {data : List (ExtFloat K)} (allFinite : ∀ x ∈ data, x.IsFinite) :
    .infinity ∉ data ∧ .negInfinity ∉ data ∧ .nan ∉ data :=
  -- Each of the three is not finite.
  ⟨fun member => allFinite _ member, fun member => allFinite _ member,
    fun member => allFinite _ member⟩

/-- Finite data have a mean, and it is finite. -/
theorem fmean_finite {data : List (ExtFloat K)} (nonempty : data ≠ [])
    (allFinite : ∀ x ∈ data, x.IsFinite) : ∃ mean, fmean data = .ok (.finite mean) := by
  -- None of the values makes the sum special, so it is the sum of the values.
  obtain ⟨noInfinity, noNegInfinity, noNan⟩ := special_not_mem allFinite
  simp [fmean, fsum, nonempty, noInfinity, noNegInfinity, noNan, Except.map]

omit [LinearOrder K] in
/-- Finite data have a deviation, and it is finite. -/
theorem pstdev_finite [SquareRoot K] {data : List (ExtFloat K)} (nonempty : data ≠ [])
    (allFinite : ∀ x ∈ data, x.IsFinite) : ∃ std, pstdev data = .ok (.finite std) := by
  -- All values being finite, the first branch with a result is taken.
  rw [pstdev, if_neg nonempty, if_pos allFinite]
  exact ⟨_, rfl⟩

omit [Field K] [LinearOrder K] in
/-- Permuted data have permuted finite values. -/
theorem finiteValues_perm {data other : List (ExtFloat K)} (perm : data.Perm other) :
    (finiteValues data).Perm (finiteValues other) :=
  -- Leaving out the special floats keeps the order of the others.
  perm.filterMap _

omit [LinearOrder K] in
/-- The variance does not depend on the order of the data. -/
theorem variance_perm {data other : List K} (perm : data.Perm other) :
    variance data = variance other := by
  -- Sum and length do not depend on the order, and neither does the sum of the squares.
  rw [variance, variance, perm.sum_eq, perm.length_eq]
  rw [(perm.map fun x => (x - other.sum / other.length) ^ 2).sum_eq]

instance [SquareRoot K] [CharZero K] : LawfulStatistics (ExtFloat K) where
  ofCount_injective := by
    intro first second same
    simpa [Statistics.ofCount] using same
  fmean_perm := by
    intro data other perm
    simp only [Statistics.fmean, fmean, fsum, perm.mem_iff, (finiteValues_perm perm).sum_eq,
      perm.length_eq, ← List.length_eq_zero_iff]
  pstdev_perm := by
    intro data other perm
    simp only [Statistics.pstdev, pstdev, perm.mem_iff, variance_perm (finiteValues_perm perm),
      ← List.length_eq_zero_iff, perm.length_eq]
  ofInt_hour _ _ := ⟨_, rfl⟩
  hours_summary := by
    -- Converted hours are finite, so no special value stands in the way.
    intro data nonempty hours
    have allFinite : ∀ x ∈ data, x.IsFinite := by
      intro x member
      obtain ⟨hour, _, _, converted⟩ := hours x member
      cases converted
      trivial
    obtain ⟨mean, averaged⟩ := fmean_finite nonempty allFinite
    obtain ⟨std, deviated⟩ := pstdev_finite nonempty allFinite
    exact ⟨⟨_, averaged⟩, ⟨_, deviated⟩⟩

end Arithmetic
end ExtFloat
end Absm
