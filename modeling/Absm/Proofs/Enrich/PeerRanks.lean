import Absm.Enrich.PeerComparator

/-! Which features can be compared with the statistics of peers. -/

namespace Absm

variable {K : Type} [LT K] [DecidableLT K] [LE K] [DecidableLE K] [Add K] [Sub K] [Mul K] [Div K] [Neg K]
  [OfScientific K] [FloatPow K] [Zero K] [One K] [FloatCast K] [JsonFloat K]

/-- A feature that the statistics of a role can be compared with: they are a dictionary, mean and
deviation are numbers, and the power for the percentile is not too large. -/
def Comparable (roleStats : Json K) (feature : String × K) : Prop :=
  -- The five steps on the way to the percentile return, unless the deviation ends it before.
  ∃ featureStats meanEntry stdEntry mean std, roleStats.get feature.1 (.object []) = .ok featureStats ∧
    featureStats.get "mean" (.float feature.2) = .ok meanEntry ∧ castFloat meanEntry = .ok mean ∧
    featureStats.get "std" (.float 0.0) = .ok stdEntry ∧ castFloat stdEntry = .ok std ∧
    (¬ std ≤ 0.0 → ∃ power,
      FloatPow.pow (2.718281828 : K) (-1.702 * ((feature.2 - mean) / std)) = .ok power)

/-- Statistics that all features can be compared with. -/
def PeersComparable (room : Nat) (file : PeerStatsFile) (featureVec : Dict String K) (role : String) :
    Prop :=
  -- Nothing but the features can fail once the statistics of the role are there.
  ∃ allStats roleStats, loadPeerStats room file = .ok allStats ∧
    allStats.get role (.object []) = .ok roleStats ∧
    ∀ feature ∈ featureVec.entries, Comparable roleStats feature

omit [Zero K] [One K] [FloatCast K] [JsonFloat K] in
/-- A percentile is found unless the power is too large. -/
theorem toPercentile_ok_iff (value mean std : K) :
    (∃ percentile, toPercentile value mean std = .ok percentile) ↔
      (¬ std ≤ 0.0 → ∃ power,
        FloatPow.pow (2.718281828 : K) (-1.702 * ((value - mean) / std)) = .ok power) := by
  -- Without a deviation no power is taken.
  unfold toPercentile
  by_cases flat : std ≤ 0.0
  · simp only [if_pos flat, Except.ok.injEq, exists_eq', true_iff]
    exact fun spread => absurd flat spread
  · rw [if_neg flat]
    simp only [flat, not_false_eq_true, forall_const, bind_eq_ok, pure_eq_ok, Except.ok.injEq]
    constructor
    · intro found
      obtain ⟨_, power, taken, _⟩ := found
      exact ⟨power, taken⟩
    · intro found
      obtain ⟨power, taken⟩ := found
      exact ⟨_, power, taken, rfl⟩

omit [JsonFloat K] in
/-- The percentile of a feature is found exactly when it can be compared. -/
theorem rankFeature_ok_iff (roleStats : Json K) (feature : String × K) :
    (∃ rank, rankFeature roleStats feature = .ok rank) ↔ Comparable roleStats feature := by
  -- Each step of the comparison returns, the percentile being the last.
  simp only [rankFeature, Comparable, bind_eq_ok, pure_eq_ok, Except.ok.injEq, ← toPercentile_ok_iff]
  constructor
  · intro returned
    obtain ⟨_, stats, found, meanEntry, hasMean, mean, isMean, stdEntry, hasStd, std, isStd,
      percentile, ranked, _⟩ := returned
    exact ⟨stats, meanEntry, stdEntry, mean, std, found, hasMean, isMean, hasStd, isStd, percentile,
      ranked⟩
  · intro comparable
    obtain ⟨stats, meanEntry, stdEntry, mean, std, found, hasMean, isMean, hasStd, isStd,
      percentile, ranked⟩ := comparable
    exact ⟨_, stats, found, meanEntry, hasMean, mean, isMean, stdEntry, hasStd, std, isStd, percentile,
      ranked, rfl⟩

/-- The percentiles are found exactly when all features can be compared. -/
theorem rankFeatures_ok_iff (room : Nat) (file : PeerStatsFile) (featureVec : Dict String K)
    (role : String) :
    (∃ ranks, rankFeatures room file featureVec role = .ok ranks) ↔
      PeersComparable room file featureVec role := by
  -- The statistics are read once, and then each feature is compared.
  simp only [rankFeatures, PeersComparable, bind_eq_ok, ← rankFeature_ok_iff, ← mapM_ok_iff]
  constructor
  · intro returned
    obtain ⟨ranks, allStats, loaded, roleStats, found, ranked⟩ := returned
    exact ⟨allStats, roleStats, loaded, found, ranks, ranked⟩
  · intro comparable
    obtain ⟨allStats, roleStats, loaded, found, ranks, ranked⟩ := comparable
    exact ⟨ranks, allStats, loaded, roleStats, found, ranked⟩

/-! ### Ranks -/

/-- Mean and deviation that a feature is compared with. -/
def HasStatistics (roleStats : Json K) (feature : String × K) (mean std : K) : Prop :=
  -- Mean and deviation are what `float` makes of the entries.
  ∃ featureStats meanEntry stdEntry, roleStats.get feature.1 (.object []) = .ok featureStats ∧
    featureStats.get "mean" (.float feature.2) = .ok meanEntry ∧ castFloat meanEntry = .ok mean ∧
    featureStats.get "std" (.float 0.0) = .ok stdEntry ∧ castFloat stdEntry = .ok std

omit [JsonFloat K] in
/-- The rank of a feature is the percentile by the mean and the deviation that it is compared with. -/
theorem rankFeature_eq {roleStats : Json K} {feature : String × K} {mean std : K}
    (statistics : HasStatistics roleStats feature mean std) :
    rankFeature roleStats feature =
      (toPercentile feature.2 mean std).map (PeerFeatureRank.mk feature.1) := by
  -- Both are read without an exception.
  obtain ⟨featureStats, meanEntry, stdEntry, found, hasMean, isMean, hasStd, isStd⟩ := statistics
  simp only [rankFeature, found, hasMean, isMean, hasStd, isStd, ok_bind]
  cases toPercentile feature.2 mean std <;> rfl

/-- A comparison has one rank for each feature, in order, and each percentile lies between zero and one
hundred. -/
def RanksAll (featureVec : Dict String K) (compared : Except PyError (PeerContext K)) : Prop :=
  -- The ranks come in the order of the features, one for each.
  ∃ context, compared = .ok context ∧
    context.featurePercentiles.map PeerFeatureRank.featureName = featureVec.entries.map Prod.fst ∧
    ∀ rank ∈ context.featurePercentiles, 0.0 ≤ rank.percentileRank ∧ rank.percentileRank ≤ 100.0

/-- If percentiles that are found lie between zero and one hundred, all features are ranked exactly when each
of them has a percentile by the mean and the deviation that it is compared with. -/
theorem ranksAll_iff {room : Nat} {file : PeerStatsFile} {featureVec : Dict String K}
    {role userId : String} {allStats roleStats : Json K} (mean std : String → K)
    (confined : ∀ value mean std percentile : K, toPercentile value mean std = .ok percentile →
      0.0 ≤ percentile ∧ percentile ≤ 100.0)
    (loaded : loadPeerStats room file = .ok allStats)
    (found : allStats.get role (.object []) = .ok roleStats)
    (statistics : ∀ feature ∈ featureVec.entries,
      HasStatistics roleStats feature (mean feature.1) (std feature.1)) :
    RanksAll featureVec (compareToPeers room file userId featureVec role) ↔
      ∀ feature ∈ featureVec.entries,
        ∃ percentile, toPercentile feature.2 (mean feature.1) (std feature.1) = .ok percentile := by
  have ranked : compareToPeers room file userId featureVec role =
      (featureVec.entries.mapM (rankFeature roleStats)).map (PeerContext.mk userId role) := by
    simp only [compareToPeers, rankFeatures, loaded, found, ok_bind]
    cases featureVec.entries.mapM (rankFeature roleStats) <;> rfl
  rw [ranked]
  constructor
  · -- A rank for each feature comes from a percentile for each.
    intro all feature member
    obtain ⟨context, returned, _, _⟩ := all
    obtain ⟨ranks, each, _⟩ := map_eq_ok.mp returned
    obtain ⟨rank, same⟩ := (mapM_ok_iff _ _).mp ⟨ranks, each⟩ feature member
    rw [rankFeature_eq (statistics feature member)] at same
    obtain ⟨percentile, is, _⟩ := map_eq_ok.mp same
    exact ⟨percentile, is⟩
  · intro each
    have chosen : ∀ feature : String × K, ∃ percentile, feature ∈ featureVec.entries →
        toPercentile feature.2 (mean feature.1) (std feature.1) = .ok percentile := by
      intro feature
      by_cases member : feature ∈ featureVec.entries
      · exact (each feature member).imp fun _ is _ => is
      · exact ⟨0.0, fun inside => absurd inside member⟩
    choose percentile is using chosen
    have all : featureVec.entries.mapM (rankFeature roleStats) =
        .ok (featureVec.entries.map fun feature => ⟨feature.1, percentile feature⟩) :=
      mapM_eq_map fun feature member => by
        rw [rankFeature_eq (statistics feature member), is feature member]
        rfl
    refine ⟨⟨userId, role, featureVec.entries.map fun feature => ⟨feature.1, percentile feature⟩⟩,
      by rw [all]; rfl, ?_, fun rank ranked => ?_⟩
    · rw [List.map_map]
      rfl
    · obtain ⟨feature, member, rfl⟩ := List.mem_map.mp ranked
      exact confined _ _ _ _ (is feature member)

end Absm
