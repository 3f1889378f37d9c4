import Absm.Features.ProfileBuilder

/-! Moving a user's baseline towards new features, with outliers capped. -/

namespace Absm

variable {F : Type}

/-- The profiles that a feature store returns for its users. -/
abbrev FeatureStore (F : Type) := String → Option (UserProfile F)

/-- The store after `set_profile`. -/
def FeatureStore.setProfile (store : FeatureStore F) (userId : String) (profile : UserProfile F) :
    FeatureStore F :=
  -- The profiles of other users stay.
  Function.update store userId (some profile)

/-- What goes wrong in the calls of the store. -/
structure StoreFaults where
  /-- The call `get_profile` raises. -/
  getRaises : Bool
  /-- The call `set_profile` raises; if so, whether it has stored the profile. -/
  setRaises : Option Bool
  deriving DecidableEq

/-- Nothing goes wrong. -/
def StoreFaults.none : StoreFaults := ⟨false, Option.none⟩

/-- The key of the deviation that belongs to a mean, or to any other feature. -/
def stdKey (featureKey : String) : String :=
  -- Only a suffix is replaced; any other name gets one.
  if "_mean".toList.isSuffixOf featureKey.toList then
    String.ofList (featureKey.toList.take (featureKey.toList.length - 5)) ++ "_std"
  else featureKey ++ "_std"

variable [Add F] [Sub F] [Mul F] [Neg F] [OfScientific F] [LT F] [LE F] [DecidableLT F]
  [DecidableLE F]

/-- Whether a new value is so far from the mean that the move towards it is capped. -/
def isOutlier (oldMean newVal sigma : F) : Prop :=
  -- A deviation of zero makes no outliers, and neither does one that is no number.
  0.0 < sigma ∧ 5.0 * sigma < absolute (newVal - oldMean)

instance (oldMean newVal sigma : F) : Decidable (isOutlier oldMean newVal sigma) :=
  inferInstanceAs (Decidable (_ ∧ _))

/-- The mean after an observation. -/
def newMean (alpha oldMean newVal sigma : F) : F :=
  if isOutlier oldMean newVal sigma then
    -- An outlier moves the mean by half a deviation towards it.
    oldMean + (if oldMean ≤ newVal then 0.5 * sigma else -0.5 * sigma)
  else alpha * newVal + (1.0 - alpha) * oldMean

/-- The loop body: one feature of the profile moves towards one observation. -/
def updateFeature (alpha : F) (updated : Dict String F) (observation : String × F) : Dict String F :=
  let (key, newVal) := observation
  -- A new feature counts as having had the observed value.
  let oldMean := updated.getD key newVal
  -- The deviation may have been observed and moved by an earlier round.
  let sigma := updated.getD (stdKey key) 0.0
  updated.set key (newMean alpha oldMean newVal sigma)

/-- The loop over the observations, in the order of the vector. -/
def updateFeatures (alpha : F) (newFeatureVec : Dict String F) (features : Dict String F) :
    Dict String F :=
  -- The features are updated in the order of the new vector.
  newFeatureVec.entries.foldl (updateFeature alpha) features

/-- The profile that replaces a profile. -/
def refreshed (alpha : F) (newFeatureVec : Dict String F) (now : DateTime) (profile : UserProfile F) :
    UserProfile F :=
  -- Only the features and the moment are new.
  ⟨profile.userId, profile.windowDays, updateFeatures alpha newFeatureVec profile.features, now⟩

/-- A call of `update_baseline`, with the clock that it reads. -/
structure UpdateCall (F : Type) where
  /-- The user whose profile is updated. -/
  userId : String
  /-- The new features. -/
  newFeatureVec : Dict String F
  /-- The weight of a new value. -/
  alpha : F
  /-- When the profile is refreshed. -/
  now : DateTime

/-- Whether a call's weight is admitted. -/
def UpdateCall.admitted (call : UpdateCall F) : Prop :=
  -- Comparisons with NaN are false, so it is refused.
  0.0 < call.alpha ∧ call.alpha ≤ 1.0

instance (call : UpdateCall F) : Decidable call.admitted := inferInstanceAs (Decidable (_ ∧ _))

/-- The profile that a call stores in place of a profile. -/
def UpdateCall.refresh (call : UpdateCall F) (profile : UserProfile F) : UserProfile F :=
  refreshed call.alpha call.newFeatureVec call.now profile

/-- Update a user's baseline: what the call raises, and the store afterwards. -/
def updateBaseline (call : UpdateCall F) (faults : StoreFaults) (store : FeatureStore F) :
    Except PyError Unit × FeatureStore F :=
  if ¬ call.admitted then (.error (.valueError "alpha must be in (0, 1]"), store)
  else if faults.getRaises then (.error .osError, store)
  else
    match store call.userId with
    | none => (.error (.valueError "profile not found for baseline update"), store)
    | some profile =>
      -- A call that raises may still have reached the store.
      match faults.setRaises with
      | none => (.ok (), store.setProfile call.userId (call.refresh profile))
      | some true => (.error .osError, store.setProfile call.userId (call.refresh profile))
      | some false => (.error .osError, store)

end Absm
