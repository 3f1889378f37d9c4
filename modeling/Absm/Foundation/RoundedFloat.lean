import Absm.Foundation.ExtFloat

/-! Floats whose results are rounded, and infinite when they are too large. -/

namespace Absm

/-- How exact results become floats. -/
structure FloatFormat (K : Type) [Field K] [LinearOrder K] where
  /-- The nearest number of the precision, however large it is. -/
  round : K → K
  /-- The largest finite float. -/
  largest : K
  /-- Rounding keeps the order. -/
  monotone : Monotone round
  /-- Whole numbers of so many digits are floats. -/
  whole : ∀ n : Int, |n| ≤ 2 ^ 53 → round n = n
  /-- They are finite. -/
  large : ((2 ^ 53 : Int) : K) ≤ largest

variable {K : Type} [Field K] [LinearOrder K]

/-- A float of a format. -/
structure Rounded (format : FloatFormat K) where
  /-- The number that it stands for, or the special value. -/
  value : ExtFloat K

namespace Rounded

open ExtFloat (signedInfinity)

variable {format : FloatFormat K}

/-- A finite float. -/
def finite (value : K) : Rounded format :=
  -- It is up to the caller that the value is one of the format's.
  ⟨.finite value⟩

/-- What an exact result is rounded to. -/
def rounding (format : FloatFormat K) (exact : K) : ExtFloat K :=
  -- What would be rounded to more than the largest float is infinite.
  if format.largest < format.round exact then .infinity
  else if format.round exact < -format.largest then .negInfinity
  else .finite (format.round exact)

/-- The sum: that of finite floats is rounded, and special ones are added as ever. -/
protected def add (format : FloatFormat K) : ExtFloat K → ExtFloat K → ExtFloat K
  -- Only sums of finite floats are rounded.
  | .finite x, .finite y => rounding format (x + y)
  | x, y => x + y

/-- The product. -/
protected def mul (format : FloatFormat K) : ExtFloat K → ExtFloat K → ExtFloat K
  -- Only products of finite floats are rounded.
  | .finite x, .finite y => rounding format (x * y)
  | x, y => x * y

/-- The quotient; by zero there is none, and the interpreter raises instead. -/
protected def div (format : FloatFormat K) : ExtFloat K → ExtFloat K → ExtFloat K
  -- The quotient of two infinities is no number, and neither is one by zero.
  | .finite x, .finite y => if y = 0 then .nan else rounding format (x / y)
  | .infinity, .finite y => signedInfinity y
  | .negInfinity, .finite y => signedInfinity (-y)
  | .finite _, .infinity => .finite 0
  | .finite _, .negInfinity => .finite 0
  | _, _ => .nan

instance : LT (Rounded format) := ⟨fun x y => x.value < y.value⟩

instance : LE (Rounded format) := ⟨fun x y => x.value ≤ y.value⟩

instance : DecidableLT (Rounded format) := fun x y => inferInstanceAs (Decidable (x.value < y.value))

instance : DecidableLE (Rounded format) := fun x y => inferInstanceAs (Decidable (x.value ≤ y.value))

instance : Neg (Rounded format) := ⟨fun x => ⟨-x.value⟩⟩

instance : Add (Rounded format) := ⟨fun x y => ⟨Rounded.add format x.value y.value⟩⟩

instance : Sub (Rounded format) :=
  -- Subtraction is addition of the negated float.
  ⟨fun x y => x + -y⟩

instance : Mul (Rounded format) := ⟨fun x y => ⟨Rounded.mul format x.value y.value⟩⟩

instance : Div (Rounded format) := ⟨fun x y => ⟨Rounded.div format x.value y.value⟩⟩

instance : Zero (Rounded format) := ⟨finite 0⟩

instance : One (Rounded format) := ⟨finite 1⟩

-- A literal is read like the result of an operation.
instance : OfScientific (Rounded format) where
  ofScientific digits negative exponent :=
    ⟨rounding format (OfScientific.ofScientific digits negative exponent)⟩

instance : JsonFloat (Rounded format) where
  nan := ⟨.nan⟩
  infinity := ⟨.infinity⟩
  negInfinity := ⟨.negInfinity⟩
  ofDecimal negative digits exponent := ⟨rounding format (ExtFloat.decimal K negative digits exponent)⟩

/-- Integers are rounded unless they are too large, and no string spells a float. -/
instance : FloatCast (Rounded format) where
  ofInt value :=
    match rounding format (value : K) with
    | .finite x => some (finite x)
    | _ => none
  ofText _ := none

/-! ### Finite floats -/

/-- Finite floats are compared like their values. -/
theorem finite_le_iff {x y : K} : (finite x : Rounded format) ≤ finite y ↔ x ≤ y := by
  -- Finite floats are compared by their values.
  show ExtFloat.le (.finite x) (.finite y) = true ↔ _
  simp [ExtFloat.le]

/-- The negated value is not rounded. -/
theorem neg_finite (x : K) : -(finite x : Rounded format) = finite (-x) :=
  -- Negation only changes the sign.
  rfl

/-- The product of finite floats is rounded. -/
theorem finite_mul (x y : K) : (finite x * finite y : Rounded format) = ⟨rounding format (x * y)⟩ :=
  -- Both factors are finite.
  rfl

/-- The difference of finite floats is rounded. -/
theorem finite_sub (x y : K) : (finite x - finite y : Rounded format) = ⟨rounding format (x - y)⟩ := by
  -- Subtraction adds the negated value.
  rw [sub_eq_add_neg]
  rfl

/-- The quotient of finite floats is rounded. -/
theorem finite_div (x : K) {y : K} (nonzero : y ≠ 0) :
    (finite x / finite y : Rounded format) = ⟨rounding format (x / y)⟩ :=
  -- The divisor is not zero.
  congrArg Rounded.mk (if_neg nonzero)

/-- An infinity stays what it is when it is divided by a positive float. -/
theorem infinity_div {y : K} (positive : 0 < y) : (⟨.infinity⟩ / finite y : Rounded format) = ⟨.infinity⟩ :=
  -- The sign is that of the divisor.
  congrArg Rounded.mk (if_pos positive)

/-- A negative float turns an infinity around. -/
theorem mul_infinity {x : K} (negative : x < 0) : (finite x * ⟨.infinity⟩ : Rounded format) = ⟨.negInfinity⟩ :=
  -- The sign is that of the factor.
  congrArg Rounded.mk ((if_neg negative.not_gt).trans (if_pos negative))

/-- A result that is not too large is rounded. -/
theorem rounding_of_between {exact : K} (above : -format.largest ≤ format.round exact)
    (below : format.round exact ≤ format.largest) :
    rounding format exact = .finite (format.round exact) := by
  -- Neither of the two overflows happens.
  rw [rounding, if_neg (not_lt.mpr below), if_neg (not_lt.mpr above)]

/-- A result is infinite above, infinite below, or rounded. -/
theorem rounding_cases (format : FloatFormat K) (exact : K) :
    format.largest < format.round exact ∧ rounding format exact = .infinity ∨
      format.round exact < -format.largest ∧ rounding format exact = .negInfinity ∨
      -format.largest ≤ format.round exact ∧ format.round exact ≤ format.largest ∧
        rounding format exact = .finite (format.round exact) := by
  -- The two bounds of the format divide the line into three parts.
  by_cases above : format.largest < format.round exact
  · exact .inl ⟨above, if_pos above⟩
  · by_cases below : format.round exact < -format.largest
    · exact .inr (.inl ⟨below, by rw [rounding, if_neg above, if_pos below]⟩)
    · exact .inr (.inr ⟨not_lt.mp below, not_lt.mp above,
        rounding_of_between (not_lt.mp below) (not_lt.mp above)⟩)

variable [IsStrictOrderedRing K]

/-- The negative infinity stays what it is, too. -/
theorem negInfinity_div {y : K} (positive : 0 < y) :
    (⟨.negInfinity⟩ / finite y : Rounded format) = ⟨.negInfinity⟩ :=
  -- The sign is the opposite of the divisor's.
  congrArg Rounded.mk ((if_neg (neg_neg_of_pos positive).not_gt).trans (if_pos (neg_neg_of_pos positive)))

/-- A negative float turns the negative infinity around, too. -/
theorem mul_negInfinity {x : K} (negative : x < 0) :
    (finite x * ⟨.negInfinity⟩ : Rounded format) = ⟨.infinity⟩ :=
  -- The sign is the opposite of the factor's.
  congrArg Rounded.mk (if_pos (neg_pos_of_neg negative))

/-- Whole numbers of so many digits are finite. -/
theorem whole_between (format : FloatFormat K) {n : Int} (small : |n| ≤ 2 ^ 53) :
    -format.largest ≤ (n : K) ∧ (n : K) ≤ format.largest := by
  -- Their sizes are bounded by a finite float.
  have size : |(n : K)| ≤ format.largest := by
    rw [← Int.cast_abs]
    exact (Int.cast_le.mpr small).trans format.large
  exact abs_le.mp size

/-- Whole numbers of so many digits are not rounded. -/
theorem rounding_whole (format : FloatFormat K) {n : Int} (small : |n| ≤ 2 ^ 53) :
    rounding format (n : K) = .finite (n : K) := by
  -- The number is representable, so rounding keeps it.
  have same := format.whole n small
  obtain ⟨above, below⟩ := whole_between format small
  rw [rounding_of_between (by rwa [same]) (by rwa [same]), same]

/-- Between two whole numbers, what is rounded stays between them. -/
theorem rounding_between (format : FloatFormat K) {low high : Int} {exact : K}
    (above : (low : K) ≤ exact) (below : exact ≤ (high : K))
    (lowSmall : |low| ≤ 2 ^ 53) (highSmall : |high| ≤ 2 ^ 53) :
    rounding format exact = .finite (format.round exact) ∧ (low : K) ≤ format.round exact ∧
      format.round exact ≤ (high : K) := by
  -- Rounding keeps the order, and the whole numbers stay where they are.
  have lower := format.monotone above
  have upper := format.monotone below
  rw [format.whole low lowSmall] at lower
  rw [format.whole high highSmall] at upper
  refine ⟨rounding_of_between ?_ ?_, lower, upper⟩
  · exact (whole_between format lowSmall).1.trans lower
  · exact upper.trans (whole_between format highSmall).2

end Rounded
end Absm
