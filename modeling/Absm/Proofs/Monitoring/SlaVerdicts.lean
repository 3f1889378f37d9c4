import Absm.Foundation.Fallible
import Absm.Monitoring.SlaChecker

/-! How exactly the time that an alert has taken is judged, although it is rounded. -/

namespace Absm

/-- The seconds for which a microsecond is longer than the steps between floats, some 272 years. -/
def exactSeconds : Nat :=
  -- From there on neighbouring doubles lie more than a microsecond apart.
  2 ^ 33

/-- Up to that bound, one more microsecond is more after rounding. -/
theorem totalSeconds_lt_succ {micros : Int} (nonneg : 0 ≤ micros) (bounded : micros < exactSeconds * 1000000) :
    totalSeconds micros < totalSeconds (micros + 1) := by
  have lower : (0 : ℚ) ≤ micros := Int.cast_nonneg nonneg
  have upper : (micros : ℚ) + 1 ≤ 8589934592 * 1000000 := by exact_mod_cast bounded
  have scale : ((2 : Nat) : ℚ) ^ (33 : Int) = 8589934592 := by norm_num
  have step : ((2 : Nat) : ℚ) ^ ((33 : Int) - floatDigits) = 1 / 1048576 := by
    rw [floatDigits]
    norm_num
  have small : |(micros : ℚ) / 1000000| ≤ ((2 : Nat) : ℚ) ^ (33 : Int) := by
    rw [abs_of_nonneg (by positivity), scale]
    linarith
  have nextSmall : |((micros + 1 : Int) : ℚ) / 1000000| ≤ ((2 : Nat) : ℚ) ^ (33 : Int) := by
    rw [Int.cast_add, Int.cast_one, abs_of_nonneg (by positivity), scale]
    linarith
  refine rounded_lt_rounded one_lt_two (by decide) small nextSmall ?_
  -- A microsecond is longer than a step.
  rw [step]
  push_cast
  linarith

/-- Longer times are not shorter after rounding. -/
theorem totalSeconds_mono {first second : Int} (le : first ≤ second) :
    totalSeconds first ≤ totalSeconds second :=
  -- Rounding keeps the order.
  rounded_mono one_lt_two (by decide) (div_le_div_of_nonneg_right (Int.cast_le.mpr le) (by norm_num))

/-- Rounded times are compared with one below the bound as the exact ones are. -/
theorem totalSeconds_lt_iff {threshold elapsed : Int} (nonneg : 0 ≤ threshold)
    (bounded : threshold < exactSeconds * 1000000) :
    totalSeconds threshold < totalSeconds elapsed ↔ threshold < elapsed := by
  -- What is longer is longer by a microsecond at least.
  constructor
  · intro longer
    by_contra within
    exact absurd longer (not_lt.mpr (totalSeconds_mono (not_lt.mp within)))
  · intro longer
    exact (totalSeconds_lt_succ nonneg bounded).trans_le (totalSeconds_mono longer)

/-- Beyond the bound, the next two microseconds are rounded to the same float. -/
theorem totalSeconds_collide :
    totalSeconds (exactSeconds * 1000000 + 1) = totalSeconds (exactSeconds * 1000000 + 2) := by
  -- Both round to one double.
  decide +kernel

/-- The rounded times decide the verdict. -/
theorem checkSla_breached (ingestTime alertTime : DateTime) (thresholdSeconds : ℚ) :
    (checkSla ingestTime alertTime thresholdSeconds).map SLAStatus.breached =
      (alertTime.elapsed ingestTime).map fun elapsed => decide (thresholdSeconds < totalSeconds elapsed) := by
  -- The subtraction is the only step that can fail.
  cases taken : alertTime.elapsed ingestTime <;> simp only [checkSla, taken] <;> rfl

/-- The verdict on the difference of the two times is exact to the microsecond for all times of an event and its
alert and all thresholds with six decimals that are not negative and less than a number of seconds, exactly if
this number is within the bound. The difference is the time that has passed unless both times are in one time
zone. -/
theorem breached_exact_iff (seconds : Nat) :
    ((∀ (ingestTime alertTime : DateTime) (micros : Int), 0 ≤ micros → micros < seconds * 1000000 →
      (checkSla ingestTime alertTime (totalSeconds micros)).map SLAStatus.breached =
        (alertTime.elapsed ingestTime).map fun elapsed => decide (micros < elapsed)) ↔
      seconds ≤ exactSeconds) ∧
    ∀ ingestTime alertTime : DateTime, ingestTime.aware = alertTime.aware →
      ingestTime.tzinfo.Constant ∨ alertTime.tzinfo.Constant →
      alertTime.elapsed ingestTime = .ok (alertTime.clock - ingestTime.clock) := by
  refine ⟨⟨?_, ?_⟩, ?_⟩
  · intro faithful
    by_contra above
    -- An alert that is one microsecond late is not seen.
    let alertTime := DateTime.utc (exactSeconds * 1000000 + 2) (by decide)
    have elapsed : alertTime.elapsed .yearOne = .ok (exactSeconds * 1000000 + 2) := rfl
    have verdict := faithful .yearOne alertTime (exactSeconds * 1000000 + 1) (by omega) (by omega)
    rw [checkSla_breached, elapsed, totalSeconds_collide] at verdict
    simp [Except.map] at verdict
  · intro within ingestTime alertTime micros nonneg bounded
    have small : micros < exactSeconds * 1000000 := by omega
    rw [checkSla_breached]
    simp only [totalSeconds_lt_iff nonneg small]
  · intro ingestTime alertTime kind constant
    rw [DateTime.elapsed, if_pos kind.symm, Except.ok.injEq]
    exact constant.elim DateTime.later_of_constant DateTime.later_of_constant_left

/-- An alert that takes a minute is in time, and one more microsecond is too much. -/
example : [60000000, 60000001].map (fun micros => decide (monitoringSlaThresholdSecondsDefault <
    totalSeconds micros)) = [false, true] := by decide +kernel

/-- Where the clock is turned back an hour, an alert twenty minutes after its event comes forty minutes before
it. -/
example : (DateTime.mk (739185 * dayMicros + 130 * 60000000) (.zone .berlin true) (by decide)).elapsed
    (.mk (739185 * dayMicros + 170 * 60000000) (.zone .berlin false) (by decide)) =
      .ok (-40 * 60000000) := by decide +kernel

end Absm
