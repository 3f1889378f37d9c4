import Absm.Foundation.Progressions
import Absm.Proofs.Drift.StepLatency

/-! What a detector is sensitive to: every steady trend, and no outlier that stands alone. -/

namespace Absm

open ExtFloat (variance)

variable {K : Type} [Field K] [LinearOrder K] [IsStrictOrderedRing K] [SquareRoot K]
  [LawfulSquareRoot K]

/-! ### Trends -/

omit [SquareRoot K] [LawfulSquareRoot K] in
/-- The means of the two halves of the first numbers are apart by half their number. -/
theorem halves_firstNumbers {count : Nat} (several : 2 ≤ count) :
    mean ((firstNumbers K count).take (count / 2)) -
      mean ((firstNumbers K count).drop (count / 2)) = -(count / 2) := by
  -- The newer half is a shifted copy of so many first numbers.
  have shifted : (fun x => ((count / 2 : Nat) : K) + x) = fun x => 1 * x + ((count / 2 : Nat) : K) := by
    funext x
    ring
  have nonempty : firstNumbers K (count - count / 2) ≠ [] := by
    rw [← List.length_pos_iff, length_firstNumbers]
    omega
  have older := mean_firstNumbers (K := K) (show 0 < count / 2 by omega)
  have newer := mean_firstNumbers (K := K) (show 0 < count - count / 2 by omega)
  rw [Nat.cast_sub (Nat.div_le_self count 2)] at newer
  rw [take_firstNumbers K (Nat.div_le_self count 2), drop_firstNumbers, shifted, mean_affine _ _ nonempty]
  linarith

/-- A window of the first numbers drifts as soon as it is long enough. -/
theorem drifted_firstNumbers (count : Nat) :
    ADWINDetector.drifted (firstNumbers K count) = .ok (decide (10 ≤ count)) := by
  rw [drifted_eq, Except.ok.injEq, decide_eq_decide, Drifts, length_firstNumbers]
  refine ⟨And.left, fun long => ⟨long, ?_⟩⟩
  -- The variance is less than a third of the squared distance of the halves' means.
  have spread := variance_firstNumbers (K := K) (show 0 < count by omega)
  have size : (10 : K) ≤ count := by exact_mod_cast long
  rw [halves_firstNumbers (show 2 ≤ count by omega)]
  constructor
  · intro none
    rw [none, mul_zero] at spread
    nlinarith
  · nlinarith

omit [LawfulSquareRoot K] [SquareRoot K] [IsStrictOrderedRing K] [LinearOrder K] in
/-- The window after a trend holds the first numbers in another unit. -/
theorem rtake_trend (step first : K) (maxWindow count : Nat) :
    ((firstNumbers K count).map fun i => step * i + first).rtake maxWindow =
      (firstNumbers K (count - (count - maxWindow))).map fun i =>
        step * i + (step * ↑(count - maxWindow) + first) := by
  -- The newest part of a trend is a trend of the same step, with another start.
  rw [List.rtake, List.length_map, length_firstNumbers, ← List.map_drop, drop_firstNumbers, List.map_map]
  refine List.map_congr_left fun i _ => ?_
  simp only [Function.comp_apply]
  ring

/-- A steady trend, however slight, is signalled by every call from the tenth on, and by none before. -/
theorem signals_trend {maxWindow : Nat} (large : 10 ≤ maxWindow) {start : ADWINDetector K}
    (started : JustStarted maxWindow start) {step : K} (moving : step ≠ 0) (first : K) (count : Nat) :
    start.signals ((firstNumbers K count).map fun i => step * i + first) =
      (List.range count).map fun i => .ok (decide (9 ≤ i)) := by
  -- Each window holds the first numbers in another unit.
  induction count with
  | zero => rfl
  | succ count ih =>
    have last := (started.newest large).observeAll
      ((firstNumbers K (count + 1)).map fun i => step * i + first)
    have drifts := drifted_firstNumbers (K := K) (count + 1 - (count + 1 - maxWindow))
    rw [← drifted_affine moving, ← rtake_trend, ← List.nil_append (List.map _ _), ← last.window,
      firstNumbers_succ, List.map_append] at drifts
    rw [firstNumbers_succ, List.map_append, List.map_singleton, signals_concat, ih, List.range_succ,
      List.map_append, List.map_singleton]
    refine congrArg _ (congrArg (fun answer => [answer]) (drifts.trans ?_))
    rw [Except.ok.injEq, decide_eq_decide]
    omega

/-- A trend of a thousandth at each call is signalled by the tenth call. -/
theorem signals_trend_slight :
    ∃ fresh : ADWINDetector ℝ, ADWINDetector.init (10 : Nat) = .ok fresh ∧
      fresh.signals ((firstNumbers ℝ 11).map fun i => 0.001 * i + 5) =
        List.replicate 9 (.ok false) ++ [.ok true, .ok true] := by
  -- A step of a thousandth is signalled as soon as there are ten observations.
  obtain ⟨fresh, made, -⟩ := ADWINDetector.init_newest (F := ℝ) (show 10 ≤ 10 from le_rfl)
  have slight : (0.001 : ℝ) ≠ 0 := by norm_num
  exact ⟨fresh, made, signals_trend (show 10 ≤ 10 from le_rfl) (.inl made) slight 5 11⟩

/-! ### Outliers -/

/-- At most one observation of a window differs from a value. -/
def AtMostOneOutlier (a : K) (window : List K) : Prop :=
  -- Of any two observations one has the common value.
  window.Pairwise fun x y => x = a ∨ y = a

omit [Field K] [LinearOrder K] [IsStrictOrderedRing K] [SquareRoot K] [LawfulSquareRoot K] in
/-- A window with at most one outlier has copies of the value on both sides of one observation. -/
theorem AtMostOneOutlier.shape {a : K} {window : List K} (alone : AtMostOneOutlier a window)
    (nonempty : window ≠ []) :
    ∃ before b after, window = List.replicate before a ++ b :: List.replicate after a := by
  induction window with
  | nil => exact absurd rfl nonempty
  | cons x window ih =>
    obtain ⟨others, rest⟩ := List.pairwise_cons.mp alone
    by_cases same : x = a
    · subst same
      rcases window with _ | ⟨y, window⟩
      · exact ⟨0, x, 0, rfl⟩
      · -- The window goes on with more copies of the value.
        obtain ⟨before, b, after, shape⟩ := ih rest (List.cons_ne_nil y window)
        exact ⟨before + 1, b, after, by rw [shape]; rfl⟩
    · refine ⟨0, x, window.length, ?_⟩
      have copies : window = List.replicate window.length a :=
        List.eq_replicate_of_mem fun y member => (others y member).resolve_left same
      exact congrArg (x :: ·) copies

omit [SquareRoot K] [LawfulSquareRoot K] in
/-- The mean of copies of a value with one outlier among them. -/
theorem mean_outlier (a b : K) (before after : Nat) :
    mean (List.replicate before a ++ b :: List.replicate after a) =
      a + (b - a) / (before + after + 1) := by
  -- The copies contribute their value, and the outlier its distance besides.
  have size : ((before : K) + after + 1) ≠ 0 := by exact_mod_cast Nat.succ_ne_zero (before + after)
  show _ / _ = _
  simp only [List.sum_append, List.sum_cons, List.sum_replicate, nsmul_eq_mul, List.length_append,
    List.length_cons, List.length_replicate]
  push_cast
  rw [← add_assoc]
  field_simp
  ring

omit [SquareRoot K] [LawfulSquareRoot K] in
/-- The variance of copies of a value with one outlier among them. -/
theorem variance_outlier (a b : K) (before after : Nat) :
    variance (List.replicate before a ++ b :: List.replicate after a) =
      (before + after) * (b - a) ^ 2 / (before + after + 1) ^ 2 := by
  -- The outlier might as well be the last observation.
  have perm : (List.replicate before a ++ b :: List.replicate after a).Perm
      (List.replicate (before + after) a ++ List.replicate 1 b) := by
    rw [List.replicate_add]
    exact List.perm_middle.trans (List.perm_append_singleton b _).symm
  rw [ExtFloat.variance_perm perm, variance_twoValues a b (Nat.succ_pos _)]
  push_cast
  ring

omit [SquareRoot K] [LawfulSquareRoot K] in
/-- One outlier moves the mean of the half that it is in. -/
theorem halves_outlier (a b : K) {before after : Nat} (several : 2 ≤ before + after + 1) :
    ∃ half : Nat, 0 < half ∧ before + after ≤ 2 * half ∧
      let window := List.replicate before a ++ b :: List.replicate after a
      (mean (window.take (window.length / 2)) -
        mean (window.drop (window.length / 2))) ^ 2 = ((b - a) / half) ^ 2 := by
  have length : (List.replicate before a ++ b :: List.replicate after a).length = before + after + 1 := by
    simp only [List.length_append, List.length_cons, List.length_replicate]
    omega
  simp only [length]
  obtain ⟨mid, middle⟩ : ∃ mid, mid = (before + after + 1) / 2 := ⟨_, rfl⟩
  rw [← middle]
  by_cases older : before < mid
  · -- The newer half holds copies only.
    have cut : List.replicate before a ++ b :: List.replicate after a =
        (List.replicate before a ++ b :: List.replicate (mid - before - 1) a) ++
          List.replicate (before + after + 1 - mid) a := by
      rw [List.append_assoc, List.cons_append, ← List.replicate_add]
      congr 3
      omega
    have size : (List.replicate before a ++ b :: List.replicate (mid - before - 1) a).length = mid := by
      simp only [List.length_append, List.length_cons, List.length_replicate]
      omega
    refine ⟨mid, by omega, by omega, ?_⟩
    have count : (before : K) + ((mid - before - 1 : Nat) : K) + 1 = mid := by
      exact_mod_cast (by omega : before + (mid - before - 1) + 1 = mid)
    rw [cut, List.take_left' size, List.drop_left' size, mean_outlier, mean_replicate _ (by omega),
      add_sub_cancel_left, count]
  · -- The older half holds copies only.
    have cut : List.replicate before a ++ b :: List.replicate after a =
        List.replicate mid a ++ (List.replicate (before - mid) a ++ b :: List.replicate after a) := by
      rw [← List.append_assoc, ← List.replicate_add]
      congr 2
      omega
    have size : (List.replicate mid a).length = mid := List.length_replicate
    refine ⟨before + after + 1 - mid, by omega, by omega, ?_⟩
    have count : ((before - mid : Nat) : K) + after + 1 = ((before + after + 1 - mid : Nat) : K) := by
      exact_mod_cast (by omega : before - mid + after + 1 = before + after + 1 - mid)
    rw [cut, List.take_left' size, List.drop_left' size, mean_outlier, mean_replicate _ (by omega),
      sub_add_cancel_left, neg_sq, count]

/-- One outlier does not make a window drift, however far away it is. -/
theorem not_drifted_outlier (a b : K) (before after : Nat) :
    ADWINDetector.drifted (List.replicate before a ++ b :: List.replicate after a) = .ok false := by
  rw [drifted_eq_false_iff]
  intro drifts
  obtain ⟨long, -, exceeds⟩ := drifts
  simp only [List.length_append, List.length_cons, List.length_replicate] at long
  obtain ⟨half, some, whole, distance⟩ := halves_outlier a b (show 2 ≤ before + after + 1 by omega)
  rw [distance, variance_outlier, div_pow, div_lt_div_iff₀ (by positivity) (by positivity)] at exceeds
  -- Among so many observations the deviation exceeds what one of them adds to the mean of a half.
  have enough : (before + after + 1) ^ 2 ≤ (before + after) * half ^ 2 := by
    have squares : (before + after) ^ 2 ≤ (2 * half) ^ 2 := Nat.pow_le_pow_left whole 2
    have nine : 9 ≤ before + after := by omega
    generalize before + after = others at *
    nlinarith
  have weights : ((before : K) + after + 1) ^ 2 ≤ (before + after) * (half : K) ^ 2 := by
    exact_mod_cast enough
  have scaled := mul_le_mul_of_nonneg_left weights (sq_nonneg (b - a))
  linarith

/-- Observations of a value among which any two outliers are so many calls apart. -/
def OutliersApart (maxWindow : Nat) (a : K) (values : List K) : Prop :=
  -- Two outliers are never in one window.
  ∀ i j x y, values[i]? = some x → values[j]? = some y → i < j → x ≠ a → y ≠ a → i + maxWindow ≤ j

omit [Field K] [LinearOrder K] [IsStrictOrderedRing K] [SquareRoot K] [LawfulSquareRoot K] in
/-- A window is too small for two outliers that are so far apart. -/
theorem OutliersApart.window {maxWindow : Nat} {a : K} {values : List K}
    (apart : OutliersApart maxWindow a values) : AtMostOneOutlier a (values.rtake maxWindow) := by
  rw [AtMostOneOutlier, List.pairwise_iff_getElem]
  intro i j here there before
  -- A position in the window is one among all observations.
  rw [List.rtake, List.length_drop] at here there
  by_contra two
  obtain ⟨first, second⟩ := not_or.mp two
  have far := apart (values.length - maxWindow + i) (values.length - maxWindow + j) _ _
    (by rw [← List.getElem?_drop]; exact List.getElem?_eq_getElem _)
    (by rw [← List.getElem?_drop]; exact List.getElem?_eq_getElem _) (by omega) first second
  omega

/-- Outliers that stand alone are never signalled, however far away they are: if any two observations that
differ from a value are at least a window apart, no call signals. -/
theorem signals_outliers {maxWindow : Nat} (large : 10 ≤ maxWindow) {start : ADWINDetector K}
    (started : JustStarted maxWindow start) {a : K} {values : List K}
    (apart : OutliersApart maxWindow a values) :
    start.signals values = List.replicate values.length (.ok false) := by
  -- The last observation is no signal, and those before it are none either.
  induction values using List.reverseRecOn with
  | nil => rfl
  | append_singleton values value ih =>
    have earlier : OutliersApart maxWindow a values := by
      intro i j x y first second
      refine apart i j x y ?_ ?_
      · rw [List.getElem?_append_left (List.getElem?_eq_some_iff.mp first).1]
        exact first
      · rw [List.getElem?_append_left (List.getElem?_eq_some_iff.mp second).1]
        exact second
    have nonempty : (values ++ [value]).rtake maxWindow ≠ [] := by
      rw [← List.length_pos_iff, List.rtake, List.length_drop, List.length_append, List.length_singleton]
      omega
    obtain ⟨before, b, after, shape⟩ := apart.window.shape nonempty
    rw [signals_concat, ih earlier, ((started.newest large).observeAll _).window, List.nil_append, shape,
      not_drifted_outlier, List.length_append, List.length_singleton, List.replicate_succ']

/-- A first observation that is far off is not signalled. -/
theorem signals_outliers_first :
    ∃ fresh : ADWINDetector ℝ, ADWINDetector.init (10 : Nat) = .ok fresh ∧
      fresh.signals (1000 :: List.replicate 11 0) = List.replicate 12 (.ok false) := by
  obtain ⟨fresh, made, -⟩ := ADWINDetector.init_newest (F := ℝ) (show 10 ≤ 10 from le_rfl)
  have apart : OutliersApart 10 (0 : ℝ) (1000 :: List.replicate 11 0) := by
    intro i j x y _ second before _ outlier
    -- Only the first one is an outlier.
    obtain ⟨later, rfl⟩ := Nat.exists_eq_succ_of_ne_zero (Nat.ne_zero_of_lt before)
    rw [List.getElem?_cons_succ] at second
    exact absurd (List.eq_of_mem_replicate (List.mem_of_getElem? second)) outlier
  exact ⟨fresh, made, signals_outliers (show 10 ≤ 10 from le_rfl) (.inl made) apart⟩

end Absm
