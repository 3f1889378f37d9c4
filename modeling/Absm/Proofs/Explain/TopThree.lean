import Mathlib.Algebra.Order.Group.Unbundled.Abs
import Mathlib.Data.List.FinRange
import Mathlib.Order.Bounds.Basic
import Absm.Explain.ShapExplainer
import Absm.Foundation.Segments
import Absm.Foundation.Spread

/-! Which features an explanation names, and which one an alert takes its tactic from. -/

namespace Absm

variable {K : Type} [Field K] [LinearOrder K]

/-! ### The order of the features -/

/-- A feature is named before another one: it has the greater attribution, or the same one and the lower
index. -/
def NamedBefore (row : Fin 64 → K) (first second : Fin 64) : Prop :=
  -- Of equal sizes the one with the lower index comes first.
  |row second| < |row first| ∨ |row second| = |row first| ∧ first < second

/-- The features from the greatest attribution to the least, those of equal ones by their indices. -/
def rankedFeatures (row : Fin 64 → K) : List (Fin 64) :=
  -- The sort is stable, and it starts from the order of the columns.
  (List.finRange 64).insertionSort fun first second => |row second| ≤ |row first|

/-- The features are ranked by what is attributed to them, upside down. -/
theorem rankedFeatures_stable (row : Fin 64 → K) :
    StablySorted (fun index => OrderDual.toDual |row index|) (List.finRange 64) (rankedFeatures row) :=
  -- Greater sizes come first, so the order is the dual one.
  stablySorted_insertionSort _ _

/-- Each feature is ranked before those that it precedes. -/
theorem rankedFeatures_pairwise (row : Fin 64 → K) : (rankedFeatures row).Pairwise (NamedBefore row) := by
  -- Before sorting, the features come by their indices.
  refine ((rankedFeatures_stable row).pairwise (List.pairwise_lt_finRange 64)).imp ?_
  intro first second order
  rcases order with less | ⟨same, lower⟩
  · exact .inl less
  · exact .inr ⟨same.symm, lower⟩

/-- Every feature is ranked. -/
theorem mem_rankedFeatures (row : Fin 64 → K) (index : Fin 64) : index ∈ rankedFeatures row :=
  -- Sorting drops nothing.
  (rankedFeatures_stable row).mem_iff.mpr (List.mem_finRange index)

/-- All features are ranked. -/
theorem length_rankedFeatures (row : Fin 64 → K) : (rankedFeatures row).length = 64 := by
  -- Sorting neither drops nor adds anything.
  rw [(rankedFeatures_stable row).perm.length_eq, List.length_finRange]

/-- No feature is ranked twice. -/
theorem rankedFeatures_nodup (row : Fin 64 → K) : (rankedFeatures row).Nodup :=
  -- The columns differ, and sorting copies none.
  (rankedFeatures_stable row).perm.nodup_iff.mpr (List.nodup_finRange 64)

/-- What is among the first ranked precedes what is not. -/
theorem namedBefore_of_take (row : Fin 64 → K) {count : Nat} {first second : Fin 64}
    (selected : first ∈ (rankedFeatures row).take count)
    (unselected : second ∉ (rankedFeatures row).take count) : NamedBefore row first second := by
  -- What is not among the first ranked is among the others, which are ranked later.
  have whole := List.take_append_drop count (rankedFeatures row)
  have order := rankedFeatures_pairwise row
  rw [← whole, List.pairwise_append] at order
  have member := mem_rankedFeatures row second
  rw [← whole, List.mem_append] at member
  exact order.2.2 first selected second (member.resolve_left unselected)

/-- The feature that is ranked first is the lowest one with the greatest attribution. -/
theorem rankedFeatures_head {row : Fin 64 → K} {top : Fin 64} {rest : List (Fin 64)}
    (ranked : rankedFeatures row = top :: rest) :
    IsLeast {index | ∀ other, |row other| ≤ |row index|} top := by
  -- Every other feature is ranked later, so it has no greater attribution, or a greater index.
  have order := rankedFeatures_pairwise row
  rw [ranked, List.pairwise_cons] at order
  have before : ∀ other, other = top ∨ NamedBefore row top other := by
    intro other
    have member := mem_rankedFeatures row other
    rw [ranked] at member
    exact (List.mem_cons.mp member).imp_right (order.1 other)
  refine ⟨fun other => ?_, fun index greatest => ?_⟩
  · rcases before other with rfl | less | ⟨same, -⟩
    · exact le_rfl
    · exact less.le
    · exact same.le
  · rcases before index with rfl | less | ⟨-, lower⟩
    · exact le_rfl
    · exact absurd (greatest top) (not_le.mpr less)
    · exact lower.le

/-! ### Names -/

/-- No two features have the same name. -/
theorem featureNames_nodup : featureNames.Nodup := by
  -- The names are compared two by two.
  decide +kernel

/-- There is a name for each of the features. -/
theorem length_featureNames : featureNames.length = 64 := by decide

/-- The name of a feature is the one at its index. -/
theorem featureName_eq {index : Nat} (below : index < featureNames.length) :
    featureName index = featureNames[index] := by
  -- The index is one of the list's.
  rw [featureName, List.getElem?_eq_getElem below]

/-- Different features have different names. -/
theorem featureName_injective : Function.Injective fun index : Fin 64 => featureName index := by
  -- The names are taken from a list without repetition.
  have below : ∀ index : Fin 64, (index : Nat) < featureNames.length := fun index =>
    index.isLt.trans_eq length_featureNames.symm
  intro first second same
  simp only [featureName_eq (below first), featureName_eq (below second)] at same
  exact Fin.ext (featureNames_nodup.getElem_inj_iff.mp same)

/-! ### The explanation -/

variable [IsStrictOrderedRing K] [FloorRing K] {L : Type}

/-- The explanation with the contributions of some features. -/
def explanationOf (row : Fin 64 → K) (selected : List (Fin 64)) : Explanation K :=
  -- Value and index belong together.
  ⟨selected.map fun index => contributionOf (row index) index⟩

omit [Field K] [LinearOrder K] [IsStrictOrderedRing K] [FloorRing K] in
/-- The numbers of a row with their places. -/
theorem zipIdx_ofFn {size : Nat} (row : Fin size → K) :
    (List.ofFn row).zipIdx = (List.finRange size).map fun index => (row index, (index : Nat)) := by
  -- Both lists have one pair for each column.
  apply List.ext_getElem
  · simp
  · intro place _ _
    simp

/-- An explanation names the three features that are ranked first. -/
theorem explain_eq {shap : Shap K} {featureVec : List K} (size : featureVec.length = 64)
    {model : (Fin 64 → K) → (Fin 64 → K) × L} {row : Fin 64 → K} {others : List (Nested K)}
    (returned : shap.explainer (wrappedFn model) (tensorOf featureVec size) (tensorOf featureVec size) =
      .ok (some (.list (.list ((List.ofFn row).map .number) :: others)))) :
    explain shap featureVec model = .ok (explanationOf row ((rankedFeatures row).take 3)) := by
  have filled : ¬ featureVec.length = 0 := by omega
  have floats : ((List.ofFn row).map Nested.number).mapM Nested.toFloat = .ok (List.ofFn row) :=
    mapM_map_of_pure _ _ fun _ _ => rfl
  -- Sorting the numbers with their places is sorting the places by their numbers.
  have ranked : ((List.ofFn row).zipIdx.insertionSort fun left right =>
      absolute right.1 ≤ absolute left.1) =
        (rankedFeatures row).map fun index => (row index, (index : Nat)) := by
    rw [zipIdx_ofFn, rankedFeatures]
    refine (List.map_insertionSort _ _ _ _ fun first _ second _ => ?_).symm
    simp only [absolute_eq]
  rw [explain, if_neg filled, dif_pos size]
  simp only [returned, ok_bind, Nested.first, getItem, List.getElem?_cons_zero, floats, ranked]
  rw [← List.map_take, List.map_map]
  rfl

omit [IsStrictOrderedRing K] in
/-- The contributions of some features carry their attributions and their names. -/
theorem explanationOf_carries (row : Fin 64 → K) (selected : List (Fin 64)) :
    (explanationOf row selected).topFeatures.map FeatureContribution.contribution = selected.map row ∧
      (explanationOf row selected).topFeatures.map (fun item => some item.featureName) =
        selected.map fun index : Fin 64 => featureNames[(index : Nat)]? := by
  rw [explanationOf, List.map_map, List.map_map]
  refine ⟨rfl, List.map_congr_left fun index _ => ?_⟩
  -- There is a name for each feature.
  have below : (index : Nat) < featureNames.length := index.isLt.trans_eq length_featureNames.symm
  rw [List.getElem?_eq_getElem below, ← featureName_eq below]
  rfl

/-- When the library returns a row of numbers, three different features are named with their attributions,
the greatest attributions first, equal ones by their indices, none of the other features before them, and
an alert takes its tactic from the lowest feature with the greatest attribution. -/
theorem explain_topThree (shap : Shap K) (model : (Fin 64 → K) → (Fin 64 → K) × L)
    {featureVec : List K} (size : featureVec.length = 64) {row : Fin 64 → K} {others : List (Nested K)}
    (returned : shap.explainer (wrappedFn model) (tensorOf featureVec size) (tensorOf featureVec size) =
      .ok (some (.list (.list ((List.ofFn row).map .number) :: others)))) :
    ∃ (selected : List (Fin 64)) (explanation : Explanation K),
      explain shap featureVec model = .ok explanation ∧
      explanation.topFeatures.map FeatureContribution.contribution = selected.map row ∧
      explanation.topFeatures.map (fun item => some item.featureName) =
        selected.map (fun index : Fin 64 => featureNames[(index : Nat)]?) ∧
      selected.length = 3 ∧ (selected.map fun index : Fin 64 => featureName index).Nodup ∧
      selected.Pairwise (NamedBefore row) ∧
      (∀ first ∈ selected, ∀ second ∉ selected, NamedBefore row first second) ∧
      ∀ alertId anomalyScore peerContext userId, ∃ top : Fin 64,
        IsLeast {index | ∀ other, |row other| ≤ |row index|} top ∧
        (buildAlert alertId anomalyScore explanation peerContext userId).mitreTactic =
          featureToMitreTactic.getD (featureName top) "Discovery" := by
  -- The three features are those that are ranked first.
  have length : ((rankedFeatures row).take 3).length = 3 := by
    rw [List.length_take, length_rankedFeatures]
    rfl
  have nodup : ((rankedFeatures row).take 3).Nodup :=
    (rankedFeatures_nodup row).sublist (List.take_sublist 3 _)
  obtain ⟨values, names⟩ := explanationOf_carries row ((rankedFeatures row).take 3)
  refine ⟨(rankedFeatures row).take 3, _, explain_eq size returned, values, names, length,
    nodup.map featureName_injective, (rankedFeatures_pairwise row).sublist (List.take_sublist 3 _),
    fun first selected second unselected => namedBefore_of_take row selected unselected, ?_⟩
  intro alertId anomalyScore peerContext userId
  cases ranked : rankedFeatures row with
  | nil => simp [ranked] at length
  | cons top rest => exact ⟨top, rankedFeatures_head ranked, rfl⟩

/-- A library that attributes nothing to any feature. -/
def flatShap : Shap ℚ :=
  ⟨fun _ _ _ => .ok (some (.list [.list ((List.ofFn fun _ : Fin 64 => (0 : ℚ)).map .number)]))⟩

/-- A model that rebuilds every vector exactly, without an embedding. -/
def identityModel (x : Fin 64 → ℚ) : (Fin 64 → ℚ) × Unit := (x, ())

/-- When nothing is attributed to any feature, three features are named all the same. -/
theorem explain_topThree_flat :
    ∃ explanation : Explanation ℚ, explain flatShap (List.replicate 64 0) identityModel = .ok explanation ∧
      explanation.topFeatures.map FeatureContribution.contribution = [0, 0, 0] := by
  -- All sizes are equal, so the first three columns are selected.
  obtain ⟨selected, explanation, explained, values, -, length, -⟩ :=
    explain_topThree flatShap identityModel
      (List.length_replicate : (List.replicate 64 (0 : ℚ)).length = 64) rfl
  refine ⟨explanation, explained, values.trans ?_⟩
  rw [List.map_const', length]
  rfl

example : (rankedFeatures fun _ => (0 : ℚ)).take 3 = [0, 1, 2] := by decide +kernel

end Absm
