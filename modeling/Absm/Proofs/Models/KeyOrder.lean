import Mathlib.Algebra.Order.BigOperators.Group.List
import Absm.Proofs.Models.LastingShift

/-! When the order of the keys in a feature vector makes a difference to the baseline. -/

namespace Absm

/-- One key of a dictionary comes before another one, or the other one is not there. -/
def Precedes {ν : Type} (dict : Dict String ν) (first second : String) : Prop :=
  -- By their places in the list of keys.
  dict.keys.idxOf first < dict.keys.idxOf second

instance {ν : Type} (dict : Dict String ν) (first second : String) :
    Decidable (Precedes dict first second) := inferInstanceAs (Decidable (_ < _))

/-- Each key that has its deviation in the vectors stands on the same side of it in both. -/
def SameSides {ν : Type} (first second : Dict String ν) : Prop :=
  -- Only keys whose companion is there as well matter.
  ∀ key ∈ first.keys, stdKey key ∈ first.keys →
    (Precedes first (stdKey key) key ↔ Precedes second (stdKey key) key)

/-! ### Companions of companions -/

/-- The length of a key, where the end that a deviation's key does not have counts less. -/
def keyRank (key : String) : Nat :=
  -- The key of a mean is one longer than its deviation's, which gets two more.
  if "_mean".toList.isSuffixOf key.toList then key.toList.length else key.toList.length + 2

/-- A key's deviation ranks above it, so going on to deviations of deviations never comes back. -/
theorem keyRank_stdKey (key : String) : keyRank key < keyRank (stdKey key) := by
  -- The deviation's key ends in another letter than a mean's key.
  have noMean : ∀ front : List Char, "_mean".toList.isSuffixOf (front ++ "_std".toList) = false := by
    intro front
    rw [Bool.eq_false_iff]
    intro suffix
    obtain ⟨rest, same⟩ := List.isSuffixOf_iff_suffix.mp suffix
    have letters := congrArg List.getLast? same
    simp at letters
  have length : ∀ front : List Char, keyRank (String.ofList front ++ "_std") = front.length + 6 := by
    intro front
    have text : (String.ofList front ++ "_std").toList = front ++ "_std".toList := by simp
    rw [keyRank, text, noMean]
    simp
  have whole : keyRank (key ++ "_std") = key.toList.length + 6 := by
    simpa using length key.toList
  unfold stdKey
  split
  case isTrue suffix =>
    have long := (List.isSuffixOf_iff_suffix.mp suffix).length_le
    rw [length, keyRank, if_pos suffix, List.length_take]
    simp only [String.length_toList] at long ⊢
    have five : "_mean".length = 5 := rfl
    omega
  case isFalse other =>
    rw [whole, keyRank, if_neg other]
    omega

/-- A key ranks no higher than all keys of its vector together. -/
theorem keyRank_le_sum {ν : Type} {vector : Dict String ν} {key : String} {value : ν}
    (observed : vector.get? key = some value) : keyRank key ≤ (vector.keys.map keyRank).sum := by
  -- One term of a sum of natural numbers.
  have member : key ∈ vector.keys := List.mem_map_of_mem (Dict.mem_entries_iff.mpr observed)
  exact List.le_sum_of_mem (List.mem_map_of_mem member)

section Frame

variable {F : Type} [Add F] [Sub F] [Mul F] [Neg F] [OfScientific F] [LT F] [LE F] [DecidableLT F]
  [DecidableLE F]

/-- An observed feature moves under the deviation after the loop if that precedes it in the vector, and
under the deviation before the loop if it does not. -/
theorem updateFeatures_reads (alpha : F) {vector : Dict String F} {key : String} {newVal : F}
    (observed : vector.get? key = some newVal) (features : Dict String F) :
    (updateFeatures alpha vector features).get? key =
      some (newMean alpha (features.getD key newVal) newVal
        ((if Precedes vector (stdKey key) key then updateFeatures alpha vector features
          else features).getD (stdKey key) 0.0)) := by
  obtain ⟨front, back, split⟩ := List.append_of_mem (Dict.mem_entries_iff.mpr observed)
  have distinct := vector.distinct
  rw [split, List.map_append, List.map_cons, List.nodup_append, List.nodup_cons] at distinct
  obtain ⟨-, ⟨notBehind, -⟩, apart⟩ := distinct
  have notBefore : key ∉ front.map Prod.fst := fun member => apart key member key (by simp) rfl
  -- The key is observed behind the first entries, and not touched by the others.
  have place : Precedes vector (stdKey key) key ↔ stdKey key ∈ front.map Prod.fst := by
    rw [Precedes, Dict.keys, split, List.map_append, List.map_cons, List.idxOf_append_of_notMem notBefore,
      List.idxOf_cons_self, Nat.add_zero]
    constructor
    · intro earlier
      by_contra absent
      rw [List.idxOf_append_of_notMem absent] at earlier
      omega
    · intro member
      rw [List.idxOf_append_of_mem member]
      exact List.idxOf_lt_length_of_mem member
  have whole : updateFeatures alpha vector features = back.foldl (updateFeature alpha)
      (updateFeature alpha (front.foldl (updateFeature alpha) features) (key, newVal)) := by
    rw [updateFeatures, split, List.foldl_append, List.foldl_cons]
  have moved : (updateFeatures alpha vector features).get? key =
      some (newMean alpha ((front.foldl (updateFeature alpha) features).getD key newVal) newVal
        ((front.foldl (updateFeature alpha) features).getD (stdKey key) 0.0)) := by
    rw [whole, foldl_updateFeature_other notBehind]
    exact Dict.get?_set_self _ _ _
  have old : (front.foldl (updateFeature alpha) features).getD key newVal =
      features.getD key newVal := by
    rw [Dict.getD, foldl_updateFeature_other notBefore, ← Dict.getD]
  rw [moved, old]
  congr 2
  by_cases earlier : Precedes vector (stdKey key) key
  · rw [if_pos earlier, whole, Dict.getD, Dict.getD]
    have behind : stdKey key ∉ back.map Prod.fst := fun member =>
      apart _ (place.mp earlier) _ (List.mem_cons_of_mem _ member) rfl
    rw [foldl_updateFeature_other behind]
    congr 1
    exact (Dict.get?_set_of_ne _ (stdKey_ne key) _).symm
  · rw [if_neg earlier, Dict.getD, foldl_updateFeature_other (mt place.mpr earlier), ← Dict.getD]

/-- Once the deviations agree, an observed feature does exactly when its key stands on the same side of the
deviation in both vectors, or it makes no difference whether the deviation has moved. -/
theorem updateFeatures_agree_at (alpha : F) {first second features : Dict String F} {key : String}
    {newVal : F} (observed : first.get? key = some newVal) (otherObserved : second.get? key = some newVal)
    (companion : (updateFeatures alpha first features).get? (stdKey key) =
      (updateFeatures alpha second features).get? (stdKey key)) :
    (updateFeatures alpha first features).get? key = (updateFeatures alpha second features).get? key ↔
      (¬ (Precedes first (stdKey key) key ↔ Precedes second (stdKey key) key) →
        newMean alpha (features.getD key newVal) newVal (features.getD (stdKey key) 0.0) =
          newMean alpha (features.getD key newVal) newVal
            ((updateFeatures alpha first features).getD (stdKey key) 0.0)) := by
  have deviation : (updateFeatures alpha second features).getD (stdKey key) 0.0 =
      (updateFeatures alpha first features).getD (stdKey key) 0.0 := by
    rw [Dict.getD, Dict.getD, companion]
  rw [updateFeatures_reads alpha observed, updateFeatures_reads alpha otherObserved, Option.some.injEq]
  -- Where the sides differ, one vector reads the deviation before it moves, and the other one afterwards.
  by_cases earlier : Precedes first (stdKey key) key
  · by_cases other : Precedes second (stdKey key) key
    · simp [earlier, other, deviation]
    · simp [earlier, other, eq_comm]
  · by_cases other : Precedes second (stdKey key) key
    · simp [earlier, other, deviation]
    · simp [earlier, other]

/-- Two vectors of the same observations leave the same features behind exactly when, for every key that
stands on different sides of its deviation, it makes no difference whether the deviation has moved. -/
theorem updateFeatures_agree_iff (alpha : F) {first second : Dict String F}
    (same : ∀ key, first.get? key = second.get? key) (features : Dict String F) :
    (∀ key, (updateFeatures alpha first features).get? key =
      (updateFeatures alpha second features).get? key) ↔
    ∀ key newVal, first.get? key = some newVal →
      ¬ (Precedes first (stdKey key) key ↔ Precedes second (stdKey key) key) →
      newMean alpha (features.getD key newVal) newVal (features.getD (stdKey key) 0.0) =
        newMean alpha (features.getD key newVal) newVal
          ((updateFeatures alpha first features).getD (stdKey key) 0.0) := by
  have otherObserved {key : String} {newVal : F} (observed : first.get? key = some newVal) :
      second.get? key = some newVal := (same key).symm.trans observed
  constructor
  · intro agree key newVal observed
    exact (updateFeatures_agree_at alpha observed (otherObserved observed) (agree (stdKey key))).mp (agree key)
  · intro indifferent
    -- Keys are compared from the highest rank down, so the deviation's key comes before its own.
    have settled (distance : Nat) : ∀ key, (first.keys.map keyRank).sum < keyRank key + distance →
        (updateFeatures alpha first features).get? key =
          (updateFeatures alpha second features).get? key := by
      induction distance with
      | zero =>
        intro key high
        have absent : first.get? key = none := by
          cases observed : first.get? key with
          | none => rfl
          | some newVal => exact absurd (keyRank_le_sum observed) (not_le.mpr high)
        rw [updateFeatures_of_absent absent, updateFeatures_of_absent ((same key).symm.trans absent)]
      | succ distance ih =>
        intro key high
        cases observed : first.get? key with
        | none =>
          rw [updateFeatures_of_absent observed,
            updateFeatures_of_absent ((same key).symm.trans observed)]
        | some newVal =>
          have above := keyRank_stdKey key
          exact (updateFeatures_agree_at alpha observed (otherObserved observed)
            (ih (stdKey key) (by omega))).mpr (indifferent key newVal observed)
    exact fun key => settled ((first.keys.map keyRank).sum + 1) key (by omega)

end Frame

/-! ### Exact arithmetic -/

section Exact

variable {K : Type} [Field K] [LinearOrder K] [IsStrictOrderedRing K]

/-- A feature that is observed to be lower than before becomes lower. -/
theorem newMean_lt {alpha : K} (positive : 0 < alpha) {oldMean newVal : K} (lower : newVal < oldMean)
    (sigma : K) : newMean alpha oldMean newVal sigma < oldMean := by
  -- Capped or not, the mean moves towards the lower observation.
  obtain ⟨zero, half, one, _⟩ := update_literals (K := K)
  unfold newMean
  split
  case isTrue outlier =>
    have spread : 0 < sigma := by simpa only [zero] using outlier.1
    rw [if_neg (not_le.mpr lower), half]
    linarith
  case isFalse =>
    have less : alpha * newVal < alpha * oldMean := mul_lt_mul_of_pos_left lower positive
    rw [one]
    linarith

/-- Six deviations below an observation, a weight of one tells any lower deviation apart. -/
theorem newMean_tells {sigma lower : K} (spread : 0 < sigma) (less : lower < sigma) (newVal : K) :
    newMean 1 (newVal - 6 * sigma) newVal sigma ≠ newMean 1 (newVal - 6 * sigma) newVal lower := by
  obtain ⟨zero, half, one, _⟩ := update_literals (K := K)
  have below : newVal - 6 * sigma ≤ newVal := by linarith
  have outlier : isOutlier (newVal - 6 * sigma) newVal sigma := by
    rw [isOutlier_iff spread, sub_sub_cancel, abs_of_pos (by linarith)]
    linarith
  rw [newMean, if_pos outlier, if_pos below, half]
  unfold newMean
  split
  -- Capped, the mean moves by half of the lower deviation, and otherwise all the way.
  case isTrue =>
    rw [half]
    intro same
    linarith
  case isFalse =>
    rw [one]
    intro same
    linarith

/-- What a call stores for the user that it names. -/
theorem updateBaseline_stored {store : FeatureStore K} {userId : String} {profile : UserProfile K}
    (found : store userId = some profile) {alpha : K} (weight : 0 < alpha ∧ alpha ≤ 1)
    (vector : Dict String K) (now : DateTime) (key : String) :
    (updateBaseline ⟨userId, vector, alpha, now⟩ .none store).2.feature userId key =
      (updateFeatures alpha vector profile.features).get? key := by
  -- The call takes effect, so the stored profile is the updated one.
  have takes : UpdateCall.takesEffect ⟨userId, vector, alpha, now⟩ .none store :=
    ⟨UpdateCall.admitted_iff.mpr weight, rfl, by simp [found], by simp [StoreFaults.none]⟩
  have stored := updateBaseline_self takes
  simp only [found, Option.map_some] at stored
  rw [FeatureStore.feature, stored]
  rfl

/-- Two orders of the same observations store the same features for every profile and every weight
exactly when each key stands on the same side of its deviation in both. -/
theorem updateBaseline_keyOrder_iff (first second : Dict String K)
    (perm : first.entries.Perm second.entries) :
    (∀ (store : FeatureStore K) (userId : String) (profile : UserProfile K) (alpha : K)
        (now : DateTime), store userId = some profile → 0 < alpha ∧ alpha ≤ 1 → ∀ key,
      (updateBaseline ⟨userId, first, alpha, now⟩ .none store).2.feature userId key =
        (updateBaseline ⟨userId, second, alpha, now⟩ .none store).2.feature userId key) ↔
      SameSides first second := by
  have same := Dict.get?_of_perm perm
  constructor
  · intro agree key member companion
    obtain ⟨newVal, observed⟩ : ∃ newVal, first.get? key = some newVal :=
      Option.ne_none_iff_exists'.mp fun absent => Dict.get?_eq_none_iff.mp absent member
    obtain ⟨deviation, moved⟩ : ∃ deviation, first.get? (stdKey key) = some deviation :=
      Option.ne_none_iff_exists'.mp fun absent => Dict.get?_eq_none_iff.mp absent companion
    by_contra differ
    -- A profile with a deviation above the observed one, and with a mean six deviations away.
    have spread : 0 < |deviation| + 1 := by positivity
    have lower : deviation < |deviation| + 1 := (le_abs_self deviation).trans_lt (by linarith)
    let features : Dict String K := .ofList
      [(key, newVal - 6 * (|deviation| + 1)), (stdKey key, |deviation| + 1)]
    have oldMean : features.getD key newVal = newVal - 6 * (|deviation| + 1) := by
      have read : features.get? key = some (newVal - 6 * (|deviation| + 1)) :=
        (Dict.get?_set_of_ne _ (stdKey_ne key).symm _).trans (Dict.get?_set_self _ _ _)
      rw [Dict.getD, read, Option.getD_some]
    have oldDeviation : ∀ fallback, features.getD (stdKey key) fallback = |deviation| + 1 := by
      intro fallback
      have read : features.get? (stdKey key) = some (|deviation| + 1) := Dict.get?_set_self _ _ _
      rw [Dict.getD, read, Option.getD_some]
    let store : FeatureStore K := Function.update (fun _ => none) "u"
      (some ⟨"u", 7, features, .epoch⟩)
    have found : store "u" = some ⟨"u", 7, features, .epoch⟩ := Function.update_self ..
    have weight : (0 : K) < 1 ∧ (1 : K) ≤ 1 := ⟨one_pos, le_rfl⟩
    have stored := updateBaseline_stored found weight
    have alike : ∀ other, (updateFeatures 1 first features).get? other =
        (updateFeatures 1 second features).get? other := by
      intro other
      rw [← stored first .epoch, ← stored second .epoch]
      exact agree store "u" _ 1 .epoch found weight other
    have indifferent := (updateFeatures_agree_iff 1 same features).mp alike key newVal observed differ
    obtain ⟨sigma, found⟩ := updateFeatures_of_observed 1 moved features
    rw [oldMean, oldDeviation, Dict.getD, found, oldDeviation, Option.getD_some] at indifferent
    exact newMean_tells spread (newMean_lt one_pos lower sigma) newVal indifferent
  · intro sides store userId profile alpha now found weight key
    rw [updateBaseline_stored found weight, updateBaseline_stored found weight]
    refine (updateFeatures_agree_iff alpha same profile.features).mpr ?_ key
    intro key newVal observed differ
    -- A key whose deviation is not in the vectors precedes it in neither.
    refine absurd ?_ differ
    have member : key ∈ first.keys := by
      by_contra absent
      rw [Dict.get?_eq_none_iff.mpr absent] at observed
      cases observed
    by_cases companion : stdKey key ∈ first.keys
    · exact sides key member companion
    · have keys : first.keys.Perm second.keys := perm.map Prod.fst
      have otherCompanion : stdKey key ∉ second.keys := mt keys.mem_iff.mpr companion
      rw [Precedes, Precedes, List.idxOf_eq_length companion, List.idxOf_eq_length otherCompanion]
      exact iff_of_false (not_lt.mpr List.idxOf_le_length) (not_lt.mpr List.idxOf_le_length)

/-- A mean and then its deviation, as the aggregates have them. -/
def meanFirst : Dict String ℚ :=
  -- The mean is updated under the old deviation.
  .ofList [("x_mean", 30), ("x_std", 10)]

/-- The same two features the other way round. -/
def deviationFirst : Dict String ℚ :=
  -- The mean is updated under the new deviation.
  .ofList [("x_std", 10), ("x_mean", 30)]

/-- The law at these two orders. -/
theorem updateBaseline_keyOrder_iff_two :
    (∀ (store : FeatureStore ℚ) (userId : String) (profile : UserProfile ℚ) (alpha : ℚ)
        (now : DateTime), store userId = some profile → 0 < alpha ∧ alpha ≤ 1 → ∀ key,
      (updateBaseline ⟨userId, meanFirst, alpha, now⟩ .none store).2.feature userId key =
        (updateBaseline ⟨userId, deviationFirst, alpha, now⟩ .none store).2.feature userId key) ↔
      SameSides meanFirst deviationFirst :=
  -- Two keys, swapped.
  updateBaseline_keyOrder_iff meanFirst deviationFirst (List.Perm.swap _ _ _)

/-- From a mean of 10 with a deviation of 2 the one order caps the move to 30, and the other one first
raises the deviation and then goes all the way. -/
theorem updateBaseline_keyOrder_fails :
    meanFirst.entries.Perm deviationFirst.entries ∧
      (updateBaseline ⟨"u", meanFirst, 1, .epoch⟩ .none oneDeviationStore).2.feature "u" "x_mean" =
        some 11 ∧
      (updateBaseline ⟨"u", deviationFirst, 1, .epoch⟩ .none oneDeviationStore).2.feature "u"
        "x_mean" = some 30 :=
  -- The deviation decides whether the mean is capped.
  ⟨List.Perm.swap _ _ _, by decide +kernel, by decide +kernel⟩

end Exact
end Absm
