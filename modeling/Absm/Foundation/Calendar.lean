import Mathlib.Algebra.BigOperators.Group.List.Basic
import Mathlib.Algebra.GroupWithZero.Nat

/-! The calendar that dates are written in: leap years, the days of months, and dates as numbers of
days. -/

namespace Absm

/-! ### Stretches -/

/-- Where a position falls in consecutive stretches: the number of the stretch, and the position in it. -/
def locate : (lengths : List Nat) → (position : Nat) → Nat × Nat
  -- A position behind the first segment is one behind its end in the others.
  | [], position => (0, position)
  | length :: lengths, position =>
    if position < length then (0, position)
    else
      let later := locate lengths (position - length)
      (later.1 + 1, later.2)

/-- A position inside the stretches falls in one of them, behind those before it. -/
theorem locate_spec {lengths : List Nat} {position : Nat} (inside : position < lengths.sum) :
    (lengths.take (locate lengths position).1).sum + (locate lengths position).2 = position ∧
      ∃ length, lengths[(locate lengths position).1]? = some length ∧
        (locate lengths position).2 < length := by
  -- A stretch that lies before the position is taken off.
  induction lengths generalizing position with
  | nil => simp at inside
  | cons length lengths ih =>
    rw [List.sum_cons] at inside
    by_cases first : position < length
    · rw [locate, if_pos first]
      exact ⟨by simp, length, rfl, first⟩
    · rw [locate, if_neg first]
      obtain ⟨same, found, is, below⟩ := ih (show position - length < lengths.sum by omega)
      refine ⟨?_, found, is, below⟩
      rw [List.take_succ_cons, List.sum_cons]
      dsimp only at same ⊢
      omega

/-! ### Years -/

/-- A year with a leap day. -/
def IsLeap (year : Nat) : Prop :=
  -- Centuries are no leap years unless they are divisible by four hundred.
  year % 4 = 0 ∧ (year % 100 ≠ 0 ∨ year % 400 = 0)

instance (year : Nat) : Decidable (IsLeap year) := inferInstanceAs (Decidable (_ ∧ _))

/-- The days before a year, counted from the start of year 1. -/
def daysBeforeYear (year : Nat) : Nat :=
  -- Each year before adds 365 days, and each leap year among them one more.
  let before := year - 1
  before * 365 + before / 4 - before / 100 + before / 400

/-- The days of a year. -/
def yearLength (year : Nat) : Nat := if IsLeap year then 366 else 365

/-- The year that a day falls in, and the day of the year, counted from zero. -/
def splitYear (days : Nat) : Nat × Nat :=
  let n400 := days / 146097
  let n100 := days % 146097 / 36524
  let n4 := days % 146097 % 36524 / 1461
  let n1 := days % 146097 % 36524 % 1461 / 365
  let year := n400 * 400 + n100 * 100 + n4 * 4 + n1 + 1
  -- The last day of a leap year looks like the first one of a fifth year.
  if n1 = 4 ∨ n100 = 4 then (year - 1, 365) else (year, days % 146097 % 36524 % 1461 % 365)

/-- The days before a year, by the whole cycles of years before it. -/
theorem daysBeforeYear_cycles (n400 : Nat) {n100 n4 n1 : Nat} (few100 : n100 ≤ 3) (few4 : n4 ≤ 24)
    (few1 : n1 ≤ 3) :
    daysBeforeYear (n400 * 400 + n100 * 100 + n4 * 4 + n1 + 1) =
      n400 * 146097 + n100 * 36524 + n4 * 1461 + n1 * 365 := by
  -- The counts of centuries and of fours are small, so each division can be read off.
  unfold daysBeforeYear
  dsimp only
  omega

/-- The leap years among the years of a cycle: every fourth one, apart from the last one of a century,
unless that is the last one of four centuries. -/
theorem isLeap_cycles (n400 : Nat) {n100 n4 n1 : Nat} (few100 : n100 ≤ 3) (few4 : n4 ≤ 24)
    (few1 : n1 ≤ 3) :
    IsLeap (n400 * 400 + n100 * 100 + n4 * 4 + n1 + 1) ↔ n1 = 3 ∧ (n4 = 24 → n100 = 3) := by
  -- What the year is divided by divides the full cycles before it.
  unfold IsLeap
  omega

/-- A day falls in its year. -/
theorem splitYear_spec (days : Nat) :
    1 ≤ (splitYear days).1 ∧ (splitYear days).2 < yearLength (splitYear days).1 ∧
      daysBeforeYear (splitYear days).1 + (splitYear days).2 = days := by
  unfold splitYear yearLength
  dsimp only
  -- The numbers of whole cycles before the day, and what is left in the last one.
  have whole : days = days / 146097 * 146097 + days % 146097 / 36524 * 36524 +
      days % 146097 % 36524 / 1461 * 1461 + days % 146097 % 36524 % 1461 / 365 * 365 +
        days % 146097 % 36524 % 1461 % 365 := by omega
  have bounds : days % 146097 / 36524 * 36524 + days % 146097 % 36524 / 1461 * 1461 +
      days % 146097 % 36524 % 1461 / 365 * 365 + days % 146097 % 36524 % 1461 % 365 < 146097 ∧
      days % 146097 % 36524 / 1461 * 1461 + days % 146097 % 36524 % 1461 / 365 * 365 +
        days % 146097 % 36524 % 1461 % 365 < 36524 ∧
      days % 146097 % 36524 % 1461 / 365 * 365 + days % 146097 % 36524 % 1461 % 365 < 1461 ∧
      days % 146097 % 36524 % 1461 % 365 < 365 := by omega
  generalize days / 146097 = n400, days % 146097 / 36524 = n100, days % 146097 % 36524 / 1461 = n4,
    days % 146097 % 36524 % 1461 / 365 = n1, days % 146097 % 36524 % 1461 % 365 = left at whole bounds ⊢
  by_cases last4 : n1 = 4
  · -- The last day of the fourth year of a cycle, which is a leap year.
    have leap := isLeap_cycles n400 (show n100 ≤ 3 by omega) (show n4 ≤ 24 by omega) (Nat.le_refl 3)
    have before := daysBeforeYear_cycles n400 (show n100 ≤ 3 by omega) (show n4 ≤ 24 by omega) (Nat.le_refl 3)
    rw [if_pos (.inl last4), last4, Nat.add_sub_cancel, if_pos (leap.mpr (by omega)), before]
    omega
  by_cases last400 : n100 = 4
  · -- The last day of four centuries, whose last year is a leap year.
    have leap := isLeap_cycles n400 (Nat.le_refl 3) (Nat.le_refl 24) (Nat.le_refl 3)
    have before := daysBeforeYear_cycles n400 (Nat.le_refl 3) (Nat.le_refl 24) (Nat.le_refl 3)
    have year : n400 * 400 + n100 * 100 + n4 * 4 + n1 + 1 - 1 = n400 * 400 + 3 * 100 + 24 * 4 + 3 + 1 := by
      omega
    rw [if_pos (.inr last400), year, if_pos (leap.mpr (by omega)), before]
    omega
  · -- A day in one of the years that the cycles have.
    have few : n100 ≤ 3 ∧ n4 ≤ 24 ∧ n1 ≤ 3 := by omega
    rw [if_neg (by omega), daysBeforeYear_cycles n400 few.1 few.2.1 few.2.2]
    dsimp only
    split <;> omega

/-- A day before the start of year 10000 falls in a year before it. -/
theorem splitYear_le {days : Nat} (early : days < 3652059) : (splitYear days).1 ≤ 9999 := by
  -- The greatest day of the calendar is the last one of the year 9999.
  unfold splitYear
  dsimp only
  split <;> dsimp only <;> omega

/-! ### Dates -/

/-- A date of the calendar. -/
structure Date where
  /-- The year. -/
  year : Nat
  /-- The month, counted from one. -/
  month : Nat
  /-- The day of the month, counted from one. -/
  day : Nat
  deriving DecidableEq

namespace Date

/-- How long the months of a year are. -/
def monthLengths (year : Nat) : List Nat :=
  -- Only February depends on the year.
  [31, if IsLeap year then 29 else 28, 31, 30, 31, 30, 31, 31, 30, 31, 30, 31]

/-- A date that the calendar has, in the years that dates may have. -/
def Valid (date : Date) : Prop :=
  -- The month is looked up in the lengths, so it is one of twelve.
  1 ≤ date.year ∧ date.year ≤ 9999 ∧ 1 ≤ date.month ∧ 1 ≤ date.day ∧
    ∃ length ∈ (monthLengths date.year)[date.month - 1]?, date.day ≤ length

instance (date : Date) : Decidable date.Valid :=
  inferInstanceAs (Decidable (_ ∧ _ ∧ _ ∧ _ ∧ _))

/-- The days before a date, counted from the start of year 1. -/
def days (date : Date) : Nat :=
  -- The years before, the months before and the days before add up.
  daysBeforeYear date.year + ((monthLengths date.year).take (date.month - 1)).sum + (date.day - 1)

/-- The date of a day. -/
def ofDays (days : Nat) : Date :=
  -- First the year is split off, and then the month within it.
  let (year, dayOfYear) := splitYear days
  let (month, day) := locate (monthLengths year) dayOfYear
  ⟨year, month + 1, day + 1⟩

/-- The months make up the year. -/
theorem monthLengths_sum (year : Nat) : (monthLengths year).sum = yearLength year := by
  -- The days of February are all that makes a difference.
  rw [monthLengths, yearLength]
  split <;> rfl

/-- The days before the date of a day are those before the day. -/
theorem days_ofDays (days : Nat) : (ofDays days).days = days := by
  -- The year and the month are located by what lies before them, so these parts add up again.
  obtain ⟨_, inside, whole⟩ := splitYear_spec days
  rw [← monthLengths_sum] at inside
  obtain ⟨located, _⟩ := locate_spec inside
  simp only [ofDays, Date.days, Nat.add_sub_cancel]
  omega

/-- The date of a day before the start of year 10000 is one that the calendar has. -/
theorem valid_ofDays {days : Nat} (early : days < 3652059) : (ofDays days).Valid := by
  -- The day of the year lies within the months, and so in one that the calendar has.
  obtain ⟨first, inside, _⟩ := splitYear_spec days
  rw [← monthLengths_sum] at inside
  obtain ⟨_, length, is, below⟩ := locate_spec inside
  exact ⟨first, splitYear_le early, Nat.le_add_left .., Nat.le_add_left .., length,
    by simpa [ofDays] using is, below⟩

end Date
end Absm
