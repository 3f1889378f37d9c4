import Mathlib.Data.List.Flatten
import Mathlib.Order.Bounds.Basic
import Absm.Proofs.Drift.Units

/-! After how many observations of a new value a detector signals the step to it. -/

namespace Absm

variable {K : Type} [Field K] [LinearOrder K] [IsStrictOrderedRing K] [SquareRoot K]
  [LawfulSquareRoot K]

/-- How many observations the newer half of a full window holds. -/
def newerHalf (maxWindow : Nat) : Nat :=
  -- With an odd size the newer half is the larger one.
  maxWindow - maxWindow / 2

/-- So many new observations outweigh the old ones that a full window still holds. -/
def Outweighs (maxWindow : Nat) (count : Int) : Prop :=
  -- The condition is about whole numbers, so it can be decided.
  ((maxWindow : Int) - count) * newerHalf maxWindow ^ 2 < count * maxWindow ^ 2

/-! ### How many observations suffice -/

/-- A newer half of new observations outweighs the old ones. -/
theorem outweighs_newerHalf {maxWindow : Nat} (large : 10 ≤ maxWindow) :
    Outweighs maxWindow (newerHalf maxWindow) := by
  -- The older half has at most as many observations, and the newer half is not the whole.
  have positive : (0 : Int) < newerHalf maxWindow := by
    unfold newerHalf
    omega
  have smaller : (newerHalf maxWindow : Int) < maxWindow := by
    unfold newerHalf
    omega
  unfold Outweighs
  nlinarith [mul_pos positive positive, mul_pos positive (sub_pos.mpr smaller)]

/-- Without new observations nothing outweighs the old ones. -/
theorem Outweighs.pos {maxWindow : Nat} {count : Int} (outweighs : Outweighs maxWindow count) :
    0 < count := by
  -- Without new observations the left side is not negative and the right side not positive.
  by_contra none
  have left : 0 ≤ ((maxWindow : Int) - count) * newerHalf maxWindow ^ 2 :=
    mul_nonneg (by omega) (sq_nonneg _)
  have right : count * (maxWindow : Int) ^ 2 ≤ 0 := mul_nonpos_of_nonpos_of_nonneg (by omega) (sq_nonneg _)
  exact absurd outweighs (not_lt.mpr (right.trans left))

/-- There is a least number of new observations that outweighs the old ones. -/
theorem exists_least_outweighing {maxWindow : Nat} (large : 10 ≤ maxWindow) :
    ∃ count : Nat, IsLeast {count | Outweighs maxWindow count} (count : Int) ∧ 0 < count ∧
      count ≤ newerHalf maxWindow := by
  classical
  have some : ∃ count : Nat, Outweighs maxWindow count := ⟨_, outweighs_newerHalf large⟩
  have found := Nat.find_spec some
  refine ⟨Nat.find some, ⟨found, fun other outweighs => ?_⟩, by exact_mod_cast found.pos,
    Nat.find_min' some (outweighs_newerHalf large)⟩
  -- Every number that outweighs is positive, so it is among those that have been searched.
  obtain ⟨count, rfl⟩ := Int.eq_ofNat_of_zero_le (Outweighs.pos outweighs).le
  exact Int.ofNat_le.mpr (Nat.find_min' some outweighs)

/-! ### Windows of one and of two values -/

/-- A window of one value does not drift. -/
theorem not_drifted_replicate (count : Nat) (a : K) :
    ADWINDetector.drifted (List.replicate count a) = .ok false := by
  -- One value has no variance.
  rw [drifted_eq_false_iff]
  intro drifts
  obtain ⟨long, spread, -⟩ := drifts
  rw [List.length_replicate] at long
  exact spread (variance_replicate a (by omega))

omit [SquareRoot K] [LawfulSquareRoot K] in
/-- The distance of the halves' means exceeds the deviation whatever the size of the step is. -/
private theorem stepDistance_iff (a : K) {step size newer count : K} (moved : step ≠ 0) (full : 0 < size)
    (halved : 0 < newer) (some : 0 < count) :
    (size - count) * count * step ^ 2 / size ^ 2 < (a - (a + count * step / newer)) ^ 2 ↔
      (size - count) * newer ^ 2 < count * size ^ 2 := by
  -- The square of the step and one factor of the count stand on both sides.
  have weight : 0 < count * step ^ 2 := by positivity
  have distance : (a - (a + count * step / newer)) ^ 2 =
      count * (count * step ^ 2) / newer ^ 2 := by
    field_simp
    ring
  have left : (size - count) * count * step ^ 2 * newer ^ 2 =
      count * step ^ 2 * ((size - count) * newer ^ 2) := by ring
  have right : count * (count * step ^ 2) * size ^ 2 = count * step ^ 2 * (count * size ^ 2) := by ring
  rw [distance, div_lt_div_iff₀ (by positivity) (by positivity), left, right,
    mul_lt_mul_iff_right₀ weight]

/-- A full window of old and new observations drifts exactly when the new ones outweigh the old ones. -/
theorem drifted_step_iff {maxWindow count : Nat} (large : 10 ≤ maxWindow) (some : 0 < count)
    (newer : count ≤ newerHalf maxWindow) {a b : K} (differ : a ≠ b) :
    ADWINDetector.drifted (List.replicate (maxWindow - count) a ++ List.replicate count b) = .ok true ↔
      Outweighs maxWindow count := by
  unfold newerHalf at newer
  have length : (List.replicate (maxWindow - count) a ++ List.replicate count b).length = maxWindow := by
    rw [List.length_append, List.length_replicate, List.length_replicate]
    omega
  -- All new observations are in the newer half.
  have older : (List.replicate (maxWindow - count) a ++ List.replicate count b).take (maxWindow / 2) =
      List.replicate (maxWindow / 2) a := by
    rw [List.take_append_of_le_length (by rw [List.length_replicate]; omega), List.take_replicate]
    congr 1
    omega
  have newest : (List.replicate (maxWindow - count) a ++ List.replicate count b).drop (maxWindow / 2) =
      List.replicate (newerHalf maxWindow - count) a ++ List.replicate count b := by
    rw [List.drop_append_of_le_length (by rw [List.length_replicate]; omega), List.drop_replicate]
    congr 2
    unfold newerHalf
    omega
  rw [drifted_eq_true_iff, Drifts, length, older, newest, mean_replicate a (by omega),
    mean_twoValues a b (by omega),
    variance_twoValues a b (by omega), Nat.cast_sub (by omega : count ≤ maxWindow),
    Nat.cast_sub (by unfold newerHalf; omega : count ≤ newerHalf maxWindow), sub_add_cancel, sub_add_cancel]
  have full : (0 : K) < maxWindow := Nat.cast_pos.mpr (by omega)
  have halved : (0 : K) < newerHalf maxWindow := Nat.cast_pos.mpr (by unfold newerHalf; omega)
  have fed : (0 : K) < count := Nat.cast_pos.mpr some
  have old : (count : K) < maxWindow := Nat.cast_lt.mpr (by omega)
  have moved : b - a ≠ 0 := sub_ne_zero.mpr differ.symm
  have spread : ((maxWindow : K) - count) * count * (b - a) ^ 2 / maxWindow ^ 2 ≠ 0 := by
    have rest := sub_pos.mpr old
    positivity
  rw [stepDistance_iff a moved full halved fed, and_iff_right large, and_iff_right spread]
  unfold Outweighs
  exact_mod_cast Iff.rfl

/-! ### Feeding one value -/

section Signals

variable {F : Type} [Sub F] [Neg F] [OfScientific F] [BEq F] [LT F] [DecidableLT F] [Statistics F]

/-- The last answer is about the window that holds the last observation. -/
theorem signals_concat (detector : ADWINDetector F) (values : List F) (value : F) :
    detector.signals (values ++ [value]) = detector.signals values ++
      [ADWINDetector.drifted (detector.observeAll (values ++ [value])).window] := by
  -- The last answer is about the window with the last value in it.
  rw [ADWINDetector.signals, respondAll_concat, ADWINDetector.observeAll, respondAll_append]
  rfl

/-- As long as no window drifts there is no signal. -/
theorem signals_silent {detector : ADWINDetector F} {value : F} {count : Nat}
    (silent : ∀ fed ≤ count, 0 < fed →
      ADWINDetector.drifted (detector.observeAll (List.replicate fed value)).window = .ok false) :
    detector.signals (List.replicate count value) = List.replicate count (.ok false) := by
  -- The last observation is no signal, and those before it are none either.
  induction count with
  | zero => rfl
  | succ count ih =>
    have before := ih fun fed few some => silent fed (Nat.le_succ_of_le few) some
    rw [List.replicate_succ', signals_concat, before, ← List.replicate_succ',
      silent (count + 1) le_rfl (Nat.succ_pos count), ← List.replicate_succ']

/-- The first window that drifts is that of the first signal. -/
theorem signals_first {detector : ADWINDetector F} {value : F} {count : Nat} (some : 0 < count)
    (silent : ∀ fed < count, 0 < fed →
      ADWINDetector.drifted (detector.observeAll (List.replicate fed value)).window = .ok false)
    (signal : ADWINDetector.drifted (detector.observeAll (List.replicate count value)).window = .ok true)
    (more : Nat) :
    detector.signals (List.replicate (count + more) value) = List.replicate (count - 1) (.ok false) ++
      .ok true :: (detector.observeAll (List.replicate count value)).signals (List.replicate more value) := by
  -- The observations are those before the first signal, the one that makes it, and the later ones.
  have whole : List.replicate (count - 1) value ++ [value] = List.replicate count value := by
    rw [← List.replicate_succ']
    congr 1
    omega
  have before : detector.signals (List.replicate (count - 1) value) = List.replicate (count - 1) (.ok false) :=
    signals_silent fun fed few some => silent fed (by omega) some
  have first : detector.signals (List.replicate count value) =
      List.replicate (count - 1) (.ok false) ++ [.ok true] := by
    rw [← whole, signals_concat, before, whole, signal]
  rw [List.replicate_add, ADWINDetector.signals, respondAll_append]
  show detector.signals _ ++ (detector.observeAll _).signals _ = _
  rw [first, List.append_assoc, List.singleton_append]

end Signals

/-- A detector that has just been constructed or reset. -/
def JustStarted (maxWindow : Nat) (detector : ADWINDetector K) : Prop :=
  -- A reset keeps the size of the window.
  ADWINDetector.init maxWindow = .ok detector ∨
    ∃ earlier : ADWINDetector K, earlier.maxWindow = maxWindow ∧ detector = earlier.reset

omit [Field K] [LinearOrder K] [IsStrictOrderedRing K] [SquareRoot K] [LawfulSquareRoot K] in
/-- A detector that has just been started has been fed nothing. -/
theorem JustStarted.newest {maxWindow : Nat} (large : 10 ≤ maxWindow) {start : ADWINDetector K}
    (started : JustStarted maxWindow start) : start.Newest maxWindow [] := by
  -- Construction and reset both leave an empty window.
  rcases started with constructed | ⟨earlier, bound, rfl⟩
  · obtain ⟨fresh, made, newest⟩ := ADWINDetector.init_newest (F := K) large
    rw [constructed] at made
    cases made
    exact newest
  · exact ⟨bound, (List.rtake_nil _).symm⟩

/-- While one value is fed, no window drifts. -/
theorem oldWindow_silent {maxWindow : Nat} {start : ADWINDetector K} (newest : start.Newest maxWindow [])
    (fed : Nat) (a : K) :
    ADWINDetector.drifted (start.observeAll (List.replicate fed a)).window = .ok false := by
  -- The window holds copies of one value only.
  rw [(newest.observeAll _).window, List.nil_append, rtake_replicate]
  exact not_drifted_replicate _ a

/-- While another value follows, a window drifts exactly when the new observations outweigh the old ones. -/
theorem newWindow_iff {maxWindow : Nat} (large : 10 ≤ maxWindow) {start : ADWINDetector K}
    (newest : start.Newest maxWindow []) {copies : Nat} (enough : maxWindow ≤ copies) {a b : K}
    (differ : a ≠ b) {fed : Nat} (some : 0 < fed) (newer : fed ≤ newerHalf maxWindow) :
    ADWINDetector.drifted
        ((start.observeAll (List.replicate copies a)).observeAll (List.replicate fed b)).window = .ok true ↔
      Outweighs maxWindow fed := by
  -- The window holds the new values behind old ones, and the step is visible when they outweigh these.
  have fits : fed ≤ maxWindow := newer.trans (Nat.sub_le _ _)
  rw [((newest.observeAll _).observeAll _).window, List.nil_append, rtake_replicate_append enough fits]
  exact drifted_step_iff large some newer differ

/-- A detector that has been fed one value only, and enough of it to fill its window, has not signalled;
when another value follows, it signals first after the least number of observations that outweigh the
old ones, whatever the two values are. -/
theorem detector_stepLatency {maxWindow : Nat} (large : 10 ≤ maxWindow) {start : ADWINDetector K}
    (started : JustStarted maxWindow start) {copies : Nat} (enough : maxWindow ≤ copies) {a b : K}
    (differ : a ≠ b) :
    start.signals (List.replicate copies a) = List.replicate copies (.ok false) ∧
      ∃ count : Nat, IsLeast {count | Outweighs maxWindow count} (count : Int) ∧
        count ≤ newerHalf maxWindow ∧ ∀ more, ∃ later,
          (start.observeAll (List.replicate copies a)).signals (List.replicate (count + more) b) =
            List.replicate (count - 1) (.ok false) ++ .ok true :: later := by
  have newest := started.newest large
  obtain ⟨count, least, some, newer⟩ := exists_least_outweighing large
  refine ⟨signals_silent fun fed _ _ => oldWindow_silent newest fed a, count, least, newer,
    fun more => ⟨_, signals_first some ?_ ?_ more⟩⟩
  · -- Fewer new observations do not outweigh the old ones.
    intro fed few some
    rw [drifted_eq_false_iff, ← drifted_eq_true_iff,
      newWindow_iff large newest enough differ some (few.le.trans newer)]
    intro outweighs
    exact absurd (Int.ofNat_le.mp (least.2 outweighs)) (not_le.mpr few)
  · exact (newWindow_iff large newest enough differ some newer).mpr least.1

/-- With a window of ten, the third observation of a new value is the first that signals. -/
theorem detector_stepLatency_ten :
    ∃ fresh : ADWINDetector ℝ, ADWINDetector.init (10 : Nat) = .ok fresh ∧
      fresh.signals (List.replicate 10 0) = List.replicate 10 (.ok false) ∧ ∃ later,
        (fresh.observeAll (List.replicate 10 0)).signals (List.replicate 4 1) =
          [.ok false, .ok false, .ok true] ++ later := by
  -- Three new values are enough, and two are not.
  obtain ⟨fresh, made, -⟩ := ADWINDetector.init_newest (F := ℝ) (show 10 ≤ 10 from le_rfl)
  obtain ⟨quiet, count, least, -, latency⟩ := detector_stepLatency (show 10 ≤ 10 from le_rfl)
    (.inl made) (show 10 ≤ 10 from le_rfl) (zero_ne_one (α := ℝ))
  have third : IsLeast {count | Outweighs 10 count} 3 := by
    refine ⟨show ((10 : Nat) - 3 : Int) * _ < _ by decide, fun other outweighs => ?_⟩
    have enough : ((10 : Nat) - other : Int) * 5 ^ 2 < other * 10 ^ 2 := outweighs
    omega
  have three : count = 3 := by exact_mod_cast least.unique third
  subst three
  exact ⟨fresh, made, quiet, latency 1⟩

end Absm
