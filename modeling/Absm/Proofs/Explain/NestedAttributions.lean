import Mathlib.Data.Rat.Floor
import Absm.Explain.ShapExplainer

/-! What becomes of an explanation when the library attributes to each feature one number for each output. -/

namespace Absm

variable {K : Type}

/-- Numbers by samples, features and outputs, as nested lists. -/
def nestedValues {n m k : Nat} (values : Fin n → Fin m → Fin k → K) : Nested K :=
  -- Samples contain features, and features contain outputs.
  .list (List.ofFn fun sample => .list (List.ofFn fun feature =>
    .list (List.ofFn fun output => .number (values sample feature output))))

/-- For a function from rows of features to as many rows of outputs, the library returns one number for
each sample, feature and output. -/
def Shap.Shaped (shap : Shap K) : Prop :=
  -- The shape is the one that the library documents for models with several outputs.
  ∀ {m k : Nat} (function : List (Fin m → K) → List (Fin k → K)) (background samples : List (Fin m → K)),
    (∀ rows, (function rows).length = rows.length) →
    ∃ values : Fin samples.length → Fin m → Fin k → K,
      shap.explainer function background samples = .ok (some (nestedValues values))

/-- No list that starts with a list is converted to numbers. -/
theorem mapM_toFloat_list (items : List (Nested K)) (rest : List (Nested K)) :
    (Nested.list items :: rest).mapM Nested.toFloat =
      .error (.typeError "float() argument must be a string or a real number, not 'list'") := by
  -- The first item is a list already.
  rw [List.mapM_cons, Nested.toFloat, error_bind]

variable [Field K] [LinearOrder K] [FloorRing K] {L : Type}

omit [LinearOrder K] [FloorRing K] in
/-- The explained function returns as many rows as it is given. -/
theorem length_wrappedFn (model : (Fin 64 → K) → (Fin 64 → K) × L) (rows : List (Fin 64 → K)) :
    (wrappedFn model rows).length = rows.length :=
  -- Each row is answered by one row.
  List.length_map _

/-- With such a library no vector is ever explained: the numbers of the first feature are a list, which
cannot be converted to a number. -/
theorem explain_raises {shap : Shap K} (shaped : shap.Shaped) {featureVec : List K}
    (size : featureVec.length = 64) (model : (Fin 64 → K) → (Fin 64 → K) × L) :
    explain shap featureVec model =
      .error (.typeError "float() argument must be a string or a real number, not 'list'") := by
  -- The row of the only sample starts with the list of the first feature.
  obtain ⟨values, returned⟩ := shaped (wrappedFn model) (tensorOf featureVec size)
    (tensorOf featureVec size) (length_wrappedFn model)
  have filled : ¬ featureVec.length = 0 := by omega
  have first : (nestedValues values).first = .ok (.list (List.ofFn fun feature =>
      .list (List.ofFn fun output => .number (values ⟨0, Nat.one_pos⟩ feature output)))) := rfl
  rw [explain, if_neg filled, dif_pos size]
  simp only [returned, ok_bind, first]
  rw [List.ofFn_succ, mapM_toFloat_list]
  rfl

/-- A library that attributes nothing to any feature, for each output. -/
def zeroShap : Shap ℚ := ⟨fun {m k} _ _ samples =>
  .ok (some (nestedValues fun (_ : Fin samples.length) (_ : Fin m) (_ : Fin k) => 0))⟩

/-- The library returns values of the expected shape. -/
theorem zeroShap_shaped : zeroShap.Shaped := fun _ _ _ _ => ⟨fun _ _ _ => 0, rfl⟩

/-- A model that rebuilds every vector as zeros. -/
def zeroModel (_ : Fin 64 → ℚ) : (Fin 64 → ℚ) × Unit := (0, ())

/-- A vector of zeros is not explained. -/
theorem explain_raises_zeros :
    explain zeroShap (List.replicate 64 0) zeroModel =
      .error (.typeError "float() argument must be a string or a real number, not 'list'") :=
  -- All 64 features are zero.
  explain_raises zeroShap_shaped List.length_replicate zeroModel

/-- So it is not the case that such a library makes every vector explained. -/
theorem explain_fails :
    ¬ ∀ shap : Shap ℚ, shap.Shaped → ∀ featureVec : List ℚ, featureVec.length = 64 →
      ∀ model : (Fin 64 → ℚ) → (Fin 64 → ℚ) × Unit,
        ∃ explanation, explain shap featureVec model = .ok explanation := by
  -- One library, one vector and one model are enough.
  intro explained
  obtain ⟨explanation, returned⟩ := explained zeroShap zeroShap_shaped (List.replicate 64 0)
    List.length_replicate zeroModel
  cases returned

end Absm
