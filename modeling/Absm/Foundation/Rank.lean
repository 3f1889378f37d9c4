import Mathlib.Data.Finset.Card
import Mathlib.Order.Lattice

/-! The position of an element in the sorted order of a finite set. -/

namespace Absm

variable {α : Type} [LinearOrder α]

/-- How many elements of a set are smaller. -/
def rank (elements : Finset α) (x : α) : Nat :=
  -- Only what lies strictly below is counted, so the least element has rank zero.
  (elements.filter (· < x)).card

/-- Every element has a position. -/
theorem rank_lt_card {elements : Finset α} {x : α} (member : x ∈ elements) :
    rank elements x < elements.card := by
  -- The element itself is not smaller.
  apply Finset.card_lt_card
  refine Finset.filter_ssubset.mpr ⟨x, member, lt_irrefl x⟩

/-- A larger element has a larger position than an element. -/
theorem rank_lt_rank {elements : Finset α} {x y : α} (member : x ∈ elements) (less : x < y) :
    rank elements x < rank elements y := by
  -- All that is smaller than the smaller one is smaller than the larger one, and so is the former.
  apply Finset.card_lt_card
  refine Finset.ssubset_iff_of_subset (fun z inside => ?_) |>.mpr ⟨x, ?_, ?_⟩
  · obtain ⟨inside, below⟩ := Finset.mem_filter.mp inside
    exact Finset.mem_filter.mpr ⟨inside, below.trans less⟩
  · exact Finset.mem_filter.mpr ⟨member, less⟩
  · exact fun inside => lt_irrefl x (Finset.mem_filter.mp inside).2

/-- Different elements have different positions. -/
theorem rank_inj {elements : Finset α} {x y : α} (first : x ∈ elements) (second : y ∈ elements)
    (same : rank elements x = rank elements y) : x = y := by
  -- One of two different elements is smaller.
  rcases lt_trichotomy x y with less | equal | greater
  · exact absurd same (rank_lt_rank first less).ne
  · exact equal
  · exact absurd same (rank_lt_rank second greater).ne'

/-- Every position is taken. -/
theorem exists_rank {elements : Finset α} {position : Nat} (below : position < elements.card) :
    ∃ x ∈ elements, rank elements x = position := by
  -- There are as many positions as elements, and no two elements share one.
  have taken : elements.image (rank elements) = Finset.range elements.card := by
    apply Finset.eq_of_subset_of_card_le
    · intro number inside
      obtain ⟨x, member, rfl⟩ := Finset.mem_image.mp inside
      exact Finset.mem_range.mpr (rank_lt_card member)
    · rw [Finset.card_range, Finset.card_image_of_injOn fun x first y second =>
        rank_inj (Finset.mem_coe.mp first) (Finset.mem_coe.mp second)]
  have inside := Finset.mem_range.mpr below
  rw [← taken] at inside
  exact Finset.mem_image.mp inside

/-- A list that has every element once has as many smaller items as the set has smaller elements. -/
theorem countP_eq_rank {items : List α} (distinct : items.Nodup) (x : α) :
    items.countP (· < x) = rank items.toFinset x := by
  -- The smaller elements are the smaller items, each of them once.
  have smaller : items.toFinset.filter (· < x) = (items.filter (· < x)).toFinset := by
    ext y
    simp
  rw [rank, smaller, List.toFinset_card_of_nodup (distinct.filter _),
    List.countP_eq_length_filter]

/-- A part of a set whose elements are smaller than all others. -/
def InitialPart (part whole : Finset α) : Prop :=
  -- What is left out lies above all that is taken.
  part ⊆ whole ∧ ∀ x ∈ part, ∀ y ∈ whole, y ∉ part → x < y

/-- Larger elements do not change positions. -/
theorem InitialPart.rank_eq {part whole : Finset α} (initial : InitialPart part whole) {x : α}
    (member : x ∈ part) : rank part x = rank whole x := by
  -- What is smaller than an element of the part is in the part.
  refine congrArg Finset.card (Finset.ext fun y => ?_)
  simp only [Finset.mem_filter]
  constructor
  · intro both
    exact ⟨initial.1 both.1, both.2⟩
  · intro both
    refine ⟨by_contra fun outside => ?_, both.2⟩
    exact lt_asymm both.2 (initial.2 x member y both.1 outside)

/-- Two sets number their elements alike: equal ones equally, and different ones differently. -/
def RankAgree (first second : Finset α) : Prop :=
  -- Ranks name the same elements in both sets.
  ∀ x ∈ first, ∀ y ∈ second, rank first x = rank second y ↔ x = y

/-- Numbering alike does not depend on the order of the sets. -/
theorem RankAgree.symm {first second : Finset α} (agree : RankAgree first second) :
    RankAgree second first := fun y inside x member => by
  -- Equality of ranks and of elements can be read either way round.
  rw [eq_comm, agree x member y inside, eq_comm]

/-- An initial part numbers its elements like the whole. -/
theorem InitialPart.agree {part whole : Finset α} (initial : InitialPart part whole) :
    RankAgree part whole := by
  -- What lies below an element of the part lies in the part.
  intro x member y inside
  rw [initial.rank_eq member]
  exact ⟨rank_inj (initial.1 member) inside, fun same => by rw [same]⟩

/-- A set that numbers its elements like a larger one is an initial part of it. -/
private theorem RankAgree.initialPart {part whole : Finset α} (agree : RankAgree part whole)
    (fits : part.card ≤ whole.card) : InitialPart part whole := by
  -- The element of the whole that has the position of an element of the part is that element.
  have kept : ∀ x ∈ part, x ∈ whole ∧ rank part x = rank whole x := by
    intro x member
    obtain ⟨y, inside, same⟩ := exists_rank (lt_of_lt_of_le (rank_lt_card member) fits)
    obtain rfl := (agree x member y inside).mp same.symm
    exact ⟨inside, same.symm⟩
  refine ⟨fun x member => (kept x member).1, fun x member y inside outside => ?_⟩
  by_contra notLess
  -- An element in between would have the position of an element of the part.
  have less : y < x := lt_of_le_of_ne (not_lt.mp notLess) fun same => outside (same ▸ member)
  have below := rank_lt_rank inside less
  rw [← (kept x member).2] at below
  obtain ⟨z, found, same⟩ := exists_rank (below.trans (rank_lt_card member))
  exact outside ((agree z found y inside).mp same ▸ found)

/-- Two sets number their elements alike exactly when one is an initial part of the other. -/
theorem rankAgree_iff (first second : Finset α) :
    RankAgree first second ↔ InitialPart first second ∨ InitialPart second first := by
  -- The smaller set is the initial part.
  constructor
  · intro agree
    rcases le_total first.card second.card with fits | fits
    · exact .inl (agree.initialPart fits)
    · exact .inr (agree.symm.initialPart fits)
  · intro initial
    rcases initial with initial | initial
    · exact initial.agree
    · exact initial.agree.symm

end Absm
