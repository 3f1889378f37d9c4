import Mathlib.Algebra.Order.Field.Basic
import Mathlib.Tactic.Linarith
import Mathlib.Tactic.NormNum
import Mathlib.Tactic.Ring

/-! The range that some values of a linear order span. -/

namespace Absm

variable {K : Type} [LinearOrder K]

/-- A value lies between the least and the greatest of some values. -/
def InHull (values : List K) (x : K) : Prop :=
  -- Both bounds are values themselves, so the hull of no values is empty.
  ∃ low ∈ values, ∃ high ∈ values, low ≤ x ∧ x ≤ high

/-- A value lies in the range that it spans with others. -/
theorem inHull_of_mem {values : List K} {x : K} (member : x ∈ values) : InHull values x :=
  -- A value is its own lower and upper bound.
  ⟨x, member, x, member, le_rfl, le_rfl⟩

/-- More values span no smaller a range. -/
theorem InHull.mono {values more : List K} {x : K} (inHull : InHull values x)
    (subset : values ⊆ more) : InHull more x := by
  -- The same two bounds are still among the values.
  obtain ⟨low, lowIn, high, highIn, lower, upper⟩ := inHull
  exact ⟨low, subset lowIn, high, subset highIn, lower, upper⟩

/-- What lies between two values of a range lies in the range. -/
theorem InHull.between {values : List K} {x y z : K} (left : InHull values x)
    (right : InHull values y) (lower : min x y ≤ z) (upper : z ≤ max x y) : InHull values z := by
  -- The ends are taken from whichever of the two values is smaller or larger.
  obtain ⟨lowX, lowXIn, highX, highXIn, lowerX, upperX⟩ := left
  obtain ⟨lowY, lowYIn, highY, highYIn, lowerY, upperY⟩ := right
  have low : ∃ low ∈ values, low ≤ z := by
    rcases le_total x y with order | order
    · exact ⟨lowX, lowXIn, le_trans lowerX (by simpa [order] using lower)⟩
    · exact ⟨lowY, lowYIn, le_trans lowerY (by simpa [order] using lower)⟩
  have high : ∃ high ∈ values, z ≤ high := by
    rcases le_total x y with order | order
    · exact ⟨highY, highYIn, le_trans (by simpa [order] using upper) upperY⟩
    · exact ⟨highX, highXIn, le_trans (by simpa [order] using upper) upperX⟩
  obtain ⟨low, lowIn, lowerZ⟩ := low
  obtain ⟨high, highIn, upperZ⟩ := high
  exact ⟨low, lowIn, high, highIn, lowerZ, upperZ⟩

/-- Values in the range of values that lie in a range lie in that range. -/
theorem InHull.trans {values wider : List K} {x : K} (inHull : InHull values x)
    (inside : ∀ value ∈ values, InHull wider value) : InHull wider x := by
  -- The lower bound of the lower bound and the upper bound of the upper bound enclose the value.
  obtain ⟨low, lowIn, high, highIn, lower, upper⟩ := inHull
  obtain ⟨least, leastIn, _, _, least_le, _⟩ := inside low lowIn
  obtain ⟨_, _, most, mostIn, _, le_most⟩ := inside high highIn
  exact ⟨least, leastIn, most, mostIn, le_trans least_le lower, le_trans upper le_most⟩

variable [Field K] [IsStrictOrderedRing K]

/-- A weighted mean of two values lies between them. -/
theorem mix_between {weight x y : K} (positive : 0 < weight) (atMost : weight ≤ 1) :
    min x y ≤ weight * y + (1 - weight) * x ∧ weight * y + (1 - weight) * x ≤ max x y := by
  -- The mean moves from the one value towards the other by a share of their distance.
  have moved : weight * y + (1 - weight) * x = x + weight * (y - x) := by ring
  rw [moved]
  rcases le_total x y with order | order
  · have gap : 0 ≤ y - x := sub_nonneg.mpr order
    have share : weight * (y - x) ≤ y - x := mul_le_of_le_one_left gap atMost
    have least : 0 ≤ weight * (y - x) := mul_nonneg positive.le gap
    rw [min_eq_left order, max_eq_right order]
    constructor <;> linarith
  · have gap : y - x ≤ 0 := sub_nonpos.mpr order
    have share : y - x ≤ weight * (y - x) := by nlinarith
    have most : weight * (y - x) ≤ 0 := mul_nonpos_of_nonneg_of_nonpos positive.le gap
    rw [min_eq_right order, max_eq_left order]
    constructor <;> linarith

end Absm
