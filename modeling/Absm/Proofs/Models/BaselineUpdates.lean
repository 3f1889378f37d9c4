import Absm.Foundation.Hull
import Absm.Models.OnlineUpdater

/-! A run of baseline updates keeps every feature in the range of its initial and observed values. -/

namespace Absm

section Frame

variable {F : Type} [Add F] [Sub F] [Mul F] [Neg F] [OfScientific F] [LT F] [LE F] [DecidableLT F]
  [DecidableLE F]

/-- A loop over observations of other features leaves a feature alone. -/
theorem foldl_updateFeature_other {alpha : F} {observations : List (String × F)} {key : String}
    (absent : key ∉ observations.map Prod.fst) (features : Dict String F) :
    (observations.foldl (updateFeature alpha) features).get? key = features.get? key := by
  -- No observation of the list is about the key.
  induction observations generalizing features with
  | nil => rfl
  | cons observation observations ih =>
    simp only [List.map_cons, List.mem_cons, not_or] at absent
    rw [List.foldl_cons, ih absent.2]
    exact Dict.get?_set_of_ne _ absent.1 _

/-- A loop that observes a feature once moves it once, from the value that it had before, and under
the deviation that was there before if the loop does not observe that. -/
theorem foldl_updateFeature_moves {alpha : F} {observations : List (String × F)} {key : String}
    {newVal : F} (distinct : (observations.map Prod.fst).Nodup) (member : (key, newVal) ∈ observations)
    (features : Dict String F) : ∃ sigma,
      (stdKey key ∉ observations.map Prod.fst → sigma = features.getD (stdKey key) 0.0) ∧
      (observations.foldl (updateFeature alpha) features).get? key =
        some (newMean alpha (features.getD key newVal) newVal sigma) := by
  -- Before its turn the feature is untouched, and afterwards it is not touched again.
  induction observations generalizing features with
  | nil => simp at member
  | cons observation observations ih =>
    simp only [List.map_cons, List.nodup_cons] at distinct
    rcases List.mem_cons.mp member with rfl | later
    · refine ⟨features.getD (stdKey key) 0.0, fun _ => rfl, ?_⟩
      rw [List.foldl_cons, foldl_updateFeature_other distinct.1]
      exact Dict.get?_set_self _ _ _
    · have differs : key ≠ observation.1 := by
        rintro rfl
        exact distinct.1 (List.mem_map.mpr ⟨_, later, rfl⟩)
      obtain ⟨sigma, unobserved, found⟩ :=
        ih distinct.2 later (updateFeature alpha features observation)
      refine ⟨sigma, fun absent => ?_, found.trans ?_⟩
      · simp only [List.map_cons, List.mem_cons, not_or] at absent
        have kept : (updateFeature alpha features observation).get? (stdKey key) =
            features.get? (stdKey key) := Dict.get?_set_of_ne _ absent.1 _
        rw [unobserved absent.2, Dict.getD, Dict.getD, kept]
      · have kept : (updateFeature alpha features observation).get? key = features.get? key :=
          Dict.get?_set_of_ne _ differs _
        simp only [Dict.getD, kept]

/-- A loop that observes a feature once moves it once, from the value that it had before. -/
theorem foldl_updateFeature_self {alpha : F} {observations : List (String × F)} {key : String}
    {newVal : F} (distinct : (observations.map Prod.fst).Nodup) (member : (key, newVal) ∈ observations)
    (features : Dict String F) : ∃ sigma,
      (observations.foldl (updateFeature alpha) features).get? key =
        some (newMean alpha (features.getD key newVal) newVal sigma) := by
  -- Here it does not matter which deviation it is.
  obtain ⟨sigma, _, found⟩ := foldl_updateFeature_moves distinct member features
  exact ⟨sigma, found⟩

/-- A feature that the vector does not contain keeps its value. -/
theorem updateFeatures_of_absent {alpha : F} {vector features : Dict String F} {key : String}
    (absent : vector.get? key = none) :
    (updateFeatures alpha vector features).get? key = features.get? key :=
  -- The fold never comes to the key.
  foldl_updateFeature_other (Dict.get?_eq_none_iff.mp absent) features

/-- A feature that the vector contains moves once, under some deviation. -/
theorem updateFeatures_of_observed (alpha : F) {vector : Dict String F} {key : String} {newVal : F}
    (observed : vector.get? key = some newVal) (features : Dict String F) : ∃ sigma,
      (updateFeatures alpha vector features).get? key =
        some (newMean alpha (features.getD key newVal) newVal sigma) :=
  -- The fold comes to the key once, since keys are distinct.
  foldl_updateFeature_self vector.distinct (Dict.mem_entries_iff.mpr observed) features

/-- Whether a call gets as far as storing a refreshed profile. -/
def UpdateCall.takesEffect (call : UpdateCall F) (faults : StoreFaults) (store : FeatureStore F) :
    Prop :=
  -- A failing write may have stored the profile before it raised.
  call.admitted ∧ faults.getRaises = false ∧ (store call.userId).isSome ∧
    faults.setRaises ≠ some false

instance (call : UpdateCall F) (faults : StoreFaults) (store : FeatureStore F) :
    Decidable (call.takesEffect faults store) := inferInstanceAs (Decidable (_ ∧ _))

/-- A call either leaves the store alone or refreshes the one profile that it names. -/
theorem updateBaseline_store (call : UpdateCall F) (faults : StoreFaults) (store : FeatureStore F) :
    (updateBaseline call faults store).2 =
      if call.takesEffect faults store then
        Function.update store call.userId ((store call.userId).map call.refresh)
      else store := by
  -- The branches of the call are those in which one of the four conditions fails, and the last one.
  by_cases admitted : call.admitted
  · cases getRaises : faults.getRaises with
    | true => simp [updateBaseline, UpdateCall.takesEffect, admitted, getRaises]
    | false =>
      cases found : store call.userId with
      | none => simp [updateBaseline, UpdateCall.takesEffect, admitted, getRaises, found]
      | some profile =>
        cases setRaises : faults.setRaises with
        | none =>
          simp [updateBaseline, UpdateCall.takesEffect, admitted, getRaises, found, setRaises,
            FeatureStore.setProfile]
        | some took =>
          cases took <;> simp [updateBaseline, UpdateCall.takesEffect, admitted, getRaises, found,
            setRaises, FeatureStore.setProfile]
  · simp [updateBaseline, UpdateCall.takesEffect, admitted]

/-- A call that returns has taken effect. -/
theorem takesEffect_of_ok {call : UpdateCall F} {faults : StoreFaults} {store : FeatureStore F}
    (returned : (updateBaseline call faults store).1 = .ok ()) : call.takesEffect faults store := by
  -- Each branch that raises contradicts the return.
  unfold updateBaseline at returned
  split at returned
  case isTrue => cases returned
  case isFalse admitted =>
    split at returned
    case isTrue => cases returned
    case isFalse getRaises =>
      split at returned
      case h_1 => cases returned
      case h_2 profile found =>
        split at returned
        case h_1 setRaises =>
          exact ⟨not_not.mp admitted, by simpa using getRaises, by simp [found], by simp [setRaises]⟩
        case h_2 => cases returned
        case h_3 => cases returned

/-- The store after a run of calls, each with what goes wrong in it. -/
def afterCalls (store : FeatureStore F) (calls : List (UpdateCall F × StoreFaults)) :
    FeatureStore F :=
  -- Failing calls stay in the list.
  calls.foldl (fun store call => (updateBaseline call.1 call.2 store).2) store

/-- The values that the calls of a run have observed for a user's feature and taken into account. -/
def observations (userId key : String) : FeatureStore F → List (UpdateCall F × StoreFaults) → List F
  -- Only calls that take effect observe anything.
  | _, [] => []
  | store, (call, faults) :: calls =>
    (if call.userId = userId ∧ call.takesEffect faults store then
      (call.newFeatureVec.get? key).toList else []) ++
    observations userId key (updateBaseline call faults store).2 calls

/-- The value of a user's feature. -/
def FeatureStore.feature (store : FeatureStore F) (userId key : String) : Option F :=
  -- Neither a missing user nor a missing key has a value.
  (store userId).bind fun profile => profile.features.get? key

/-- A call leaves the features of a user alone unless it takes effect on that user. -/
theorem updateBaseline_feature_other {call : UpdateCall F} {faults : StoreFaults}
    {store : FeatureStore F} {userId : String}
    (other : ¬ (call.userId = userId ∧ call.takesEffect faults store)) :
    (updateBaseline call faults store).2 userId = store userId := by
  -- Either nothing is stored, or it is stored for another user.
  rw [updateBaseline_store]
  split
  case isTrue takes =>
    exact Function.update_of_ne (fun same => other ⟨same.symm, takes⟩) _ _
  case isFalse => rfl

/-- A call that takes effect on a user replaces the profile by its refreshment. -/
theorem updateBaseline_self {call : UpdateCall F} {faults : StoreFaults} {store : FeatureStore F}
    (takes : call.takesEffect faults store) :
    (updateBaseline call faults store).2 call.userId = (store call.userId).map call.refresh := by
  -- The call stores its own user only.
  rw [updateBaseline_store, if_pos takes, Function.update_self]

/-- A call that takes effect leaves a feature that it does not observe as it was. -/
theorem updateBaseline_feature_absent {call : UpdateCall F} {faults : StoreFaults}
    {store : FeatureStore F} {key : String} (takes : call.takesEffect faults store)
    (absent : call.newFeatureVec.get? key = none) :
    (updateBaseline call faults store).2.feature call.userId key = store.feature call.userId key := by
  -- The refreshed profile has the value of the one before.
  simp only [FeatureStore.feature, updateBaseline_self takes]
  cases found : store call.userId with
  | none => rfl
  | some profile =>
    simp only [Option.map_some, Option.bind_some, UpdateCall.refresh, refreshed]
    exact updateFeatures_of_absent absent

/-- A run without calls on a user never changes that user's profile. -/
theorem afterCalls_other {userId : String} {calls : List (UpdateCall F × StoreFaults)}
    (other : ∀ call ∈ calls, call.1.userId ≠ userId) (store : FeatureStore F) :
    afterCalls store calls userId = store userId := by
  -- No call of the run stores anything for the user.
  induction calls generalizing store with
  | nil => rfl
  | cons call calls ih =>
    have rest := ih (fun later member => other later (List.mem_cons_of_mem _ member))
      (updateBaseline call.1 call.2 store).2
    exact rest.trans (updateBaseline_feature_other fun same => other call (by simp) same.1)

/-- A feature that no call has observed keeps its initial value. -/
theorem afterCalls_unobserved {store : FeatureStore F} {calls : List (UpdateCall F × StoreFaults)}
    {userId key : String} (unobserved : observations userId key store calls = []) :
    (afterCalls store calls).feature userId key = store.feature userId key := by
  -- A call without an observation of the key leaves its value where it is.
  induction calls generalizing store with
  | nil => rfl
  | cons call calls ih =>
    obtain ⟨call, faults⟩ := call
    obtain ⟨now, later⟩ := List.append_eq_nil_iff.mp unobserved
    refine (ih later).trans ?_
    by_cases takes : call.userId = userId ∧ call.takesEffect faults store
    · obtain ⟨rfl, takes⟩ := takes
      rw [if_pos ⟨rfl, takes⟩] at now
      exact updateBaseline_feature_absent takes (by simpa using now)
    · rw [FeatureStore.feature, updateBaseline_feature_other takes, FeatureStore.feature]

end Frame

/-! ### Exact arithmetic -/

section Exact

variable {K : Type} [Field K] [LinearOrder K] [IsStrictOrderedRing K]

/-- The literals of the update are the numbers that they spell. -/
theorem update_literals :
    (0.0 : K) = 0 ∧ (0.5 : K) = 1 / 2 ∧ (1.0 : K) = 1 ∧ (5.0 : K) = 5 := by
  -- The literals of the source, as numbers of the field.
  refine ⟨?_, ?_, ?_, ?_⟩ <;> norm_num

/-- A mean moves to a value between itself and the observation, whatever the deviation is. -/
theorem newMean_between {alpha : K} (positive : 0 < alpha) (atMost : alpha ≤ 1)
    (oldMean newVal sigma : K) :
    min oldMean newVal ≤ newMean alpha oldMean newVal sigma ∧
      newMean alpha oldMean newVal sigma ≤ max oldMean newVal := by
  -- A capped step of half a deviation is shorter than the gap of five of them.
  obtain ⟨zero, half, one, five⟩ := update_literals (K := K)
  by_cases outlier : isOutlier oldMean newVal sigma
  · obtain ⟨spread, far⟩ := id outlier
    rw [newMean, if_pos outlier]
    simp only [absolute, zero, half, five] at spread far ⊢
    split at far
    case isTrue below =>
      rw [if_neg (by linarith)]
      exact ⟨min_le_iff.mpr (.inr (by linarith)), le_max_iff.mpr (.inl (by linarith))⟩
    case isFalse above =>
      rw [if_pos (by linarith)]
      exact ⟨min_le_iff.mpr (.inl (by linarith)), le_max_iff.mpr (.inr (by linarith))⟩
  · rw [newMean, if_neg outlier, one]
    exact mix_between positive atMost

/-- The weight that a call admits is positive and at most one. -/
theorem UpdateCall.admitted_iff {call : UpdateCall K} :
    call.admitted ↔ 0 < call.alpha ∧ call.alpha ≤ 1 := by
  -- The two literals are zero and one.
  obtain ⟨zero, _, one, _⟩ := update_literals (K := K)
  rw [UpdateCall.admitted, zero, one]

/-- A call that takes effect moves a feature that it observes between its old value and the
observation, and a new feature becomes the observation. -/
theorem refresh_between {call : UpdateCall K} (admitted : call.admitted) {key : String} {newVal : K}
    (observed : call.newFeatureVec.get? key = some newVal) (profile : UserProfile K) :
    ∃ value, (call.refresh profile).features.get? key = some value ∧
      min (profile.features.getD key newVal) newVal ≤ value ∧
      value ≤ max (profile.features.getD key newVal) newVal := by
  -- The old value of a feature that is new is the observation itself.
  obtain ⟨sigma, found⟩ := updateFeatures_of_observed call.alpha observed profile.features
  obtain ⟨positive, atMost⟩ := UpdateCall.admitted_iff.mp admitted
  obtain ⟨lower, upper⟩ := newMean_between positive atMost (profile.features.getD key newVal) newVal
    sigma
  exact ⟨_, found, lower, upper⟩

/-- What a call stores for a feature lies in the range of the value before and the observation. -/
theorem updateBaseline_inHull {call : UpdateCall K} {faults : StoreFaults} {store : FeatureStore K}
    {userId key : String} {value : K}
    (stored : (updateBaseline call faults store).2.feature userId key = some value) :
    InHull ((store.feature userId key).toList ++
      (if call.userId = userId ∧ call.takesEffect faults store then
        (call.newFeatureVec.get? key).toList else [])) value := by
  by_cases takes : call.userId = userId ∧ call.takesEffect faults store
  · obtain ⟨rfl, takes⟩ := takes
    simp only [FeatureStore.feature, updateBaseline_self takes] at stored
    rw [if_pos ⟨rfl, takes⟩]
    cases found : store call.userId with
    | none => simp [found] at stored
    | some profile =>
      simp only [found, Option.map_some, Option.bind_some] at stored
      simp only [FeatureStore.feature, found, Option.bind_some]
      cases observed : call.newFeatureVec.get? key with
      | none =>
        rw [UpdateCall.refresh, refreshed, updateFeatures_of_absent observed] at stored
        exact inHull_of_mem (by simp [stored])
      | some newVal =>
        obtain ⟨moved, movedTo, lower, upper⟩ := refresh_between takes.1 observed profile
        obtain rfl : moved = value := Option.some.inj (movedTo.symm.trans stored)
        -- A feature that is new starts at the observation itself.
        cases old : profile.features.get? key with
        | none =>
          simp only [Dict.getD, old, Option.getD_none] at lower upper
          exact (inHull_of_mem (by simp)).between (inHull_of_mem (by simp)) lower upper
        | some oldVal =>
          simp only [Dict.getD, old, Option.getD_some] at lower upper
          exact (inHull_of_mem (by simp)).between (inHull_of_mem (by simp)) lower upper
  · rw [FeatureStore.feature, updateBaseline_feature_other takes] at stored
    exact inHull_of_mem (by simp [FeatureStore.feature, stored])

/-- After a run every feature lies in the range of its initial and its observed values. -/
theorem afterCalls_inHull {store : FeatureStore K} {calls : List (UpdateCall K × StoreFaults)}
    {userId key : String} {value : K}
    (stored : (afterCalls store calls).feature userId key = some value) :
    InHull ((store.feature userId key).toList ++ observations userId key store calls) value := by
  -- The range after the first call is inside the range that its observation is added to.
  induction calls generalizing store with
  | nil => exact inHull_of_mem (by simpa [afterCalls, observations] using stored)
  | cons call calls ih =>
    obtain ⟨call, faults⟩ := call
    refine (ih stored).trans fun middle member => ?_
    rcases List.mem_append.mp member with first | later
    · refine (updateBaseline_inHull (Option.mem_toList.mp first)).mono fun found inside => ?_
      rcases List.mem_append.mp inside with old | observed
      · exact List.mem_append_left _ old
      · exact List.mem_append_right _ (List.mem_append_left _ observed)
    · exact inHull_of_mem (List.mem_append_right _ (List.mem_append_right _ later))

/-- After every run of calls each feature of each user lies in the range of its initial value and the
observed ones, an unobserved feature keeps its initial value, the next call lands between the old
value and its observation, and users without calls keep their profiles. -/
theorem baselines_stayInRange (store : FeatureStore K) (calls : List (UpdateCall K × StoreFaults))
    (userId key : String) :
    (∀ value, (afterCalls store calls).feature userId key = some value →
      InHull ((store.feature userId key).toList ++ observations userId key store calls) value) ∧
    (observations userId key store calls = [] →
      (afterCalls store calls).feature userId key = store.feature userId key) ∧
    (∀ call faults newVal, call.takesEffect faults (afterCalls store calls) →
      call.userId = userId → call.newFeatureVec.get? key = some newVal → ∃ value,
        (updateBaseline call faults (afterCalls store calls)).2.feature userId key = some value ∧
        match (afterCalls store calls).feature userId key with
        | some oldVal => min oldVal newVal ≤ value ∧ value ≤ max oldVal newVal
        | none => value = newVal) ∧
    ((∀ call ∈ calls, call.1.userId ≠ userId) → afterCalls store calls userId = store userId) := by
  -- The four parts are one step or one run each.
  refine ⟨fun value => afterCalls_inHull, afterCalls_unobserved, ?_, fun other =>
    afterCalls_other other store⟩
  rintro call faults newVal takes rfl observed
  obtain ⟨profile, found⟩ := Option.isSome_iff_exists.mp takes.2.2.1
  obtain ⟨value, moved, lower, upper⟩ := refresh_between takes.1 observed profile
  refine ⟨value, ?_, ?_⟩
  · simp only [FeatureStore.feature, updateBaseline_self takes, found, Option.map_some,
      Option.bind_some, moved]
  · simp only [FeatureStore.feature, found, Option.bind_some]
    cases old : profile.features.get? key with
    | some oldVal => simpa only [Dict.getD, old, Option.getD_some] using And.intro lower upper
    | none =>
      simp only [Dict.getD, old, Option.getD_none, min_self, max_self] at lower upper
      exact le_antisymm upper lower

/-- A store with the profile of one user, whose one feature is 10. -/
def oneFeatureStore : FeatureStore ℚ :=
  -- One feature and no deviation.
  Function.update (fun _ => none) "u"
    (some ⟨"u", 7, .ofList [("x_mean", 10)], .epoch⟩)

/-- A run of one call that observes 20 with a weight of a half. -/
def halfwayCalls : List (UpdateCall ℚ × StoreFaults) :=
  -- Halfway between ten and twenty is fifteen.
  [(⟨"u", .ofList [("x_mean", 20)], 1 / 2, .epoch⟩, .none)]

/-- Half the way from 10 to 20 is in the range of the two. -/
theorem baselines_stayInRange_half : InHull [10, 20] (15 : ℚ) := by
  -- The stored mean lies between the first value and the observed one.
  have stored : (afterCalls oneFeatureStore halfwayCalls).feature "u" "x_mean" = some 15 := by
    decide +kernel
  have values : (oneFeatureStore.feature "u" "x_mean").toList ++
      observations "u" "x_mean" oneFeatureStore halfwayCalls = [10, 20] := by decide +kernel
  exact values ▸ (baselines_stayInRange oneFeatureStore halfwayCalls "u" "x_mean").1 15 stored

end Exact
end Absm
