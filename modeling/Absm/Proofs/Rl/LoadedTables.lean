import Absm.Proofs.Rl.CrashedSaves
import Absm.Proofs.Rl.Restarts
import Absm.Rl.PolicyGuard

/-! Which files, among those that can be loaded, the policy can work with. -/

namespace Absm

variable {F G : Type}

open ContextualBanditPolicy

/-! ### Complete tables -/

/-- Every context of a table has a value for every threshold. -/
def CompleteTable [Zero F] (table : QTable F) : Prop :=
  -- A state that is missing counts as complete, for it is added with all actions.
  ∀ state, ∀ action ∈ thresholdActions, ∃ value, valueUnder table (stateKey state) action = some value

/-- A table is complete when the contexts that are in it are. -/
theorem completeTable_iff [Zero F] (table : QTable F) :
    CompleteTable table ↔ ∀ state values, table.get? (stateKey state) = some values →
      ∀ action ∈ thresholdActions, ∃ value, values.get? (actionKey action) = some value := by
  constructor
  · intro complete state values found action valid
    obtain ⟨value, there⟩ := complete state action valid
    rw [valueUnder, found] at there
    exact ⟨value, there⟩
  · intro present state action valid
    -- A context that is not in the table has the value zero for every threshold.
    cases found : table.get? (stateKey state) with
    | none => exact ⟨0, by rw [valueUnder, found]⟩
    | some values =>
      obtain ⟨value, there⟩ := present state values found action valid
      exact ⟨value, by rw [valueUnder, found]; exact there⟩

/-- Going on with the maximum ends with the best action so far or a later one. -/
theorem bestFrom_mem [LT F] [DecidableLT F] {values : Dict String F} {actions : List ℚ} {best : ℚ}
    {bestValue : F} {chosen : ℚ} (returned : bestFrom values best bestValue actions = .ok chosen) :
    chosen ∈ best :: actions := by
  -- The best action so far is always one of those that have been seen.
  induction actions generalizing best bestValue with
  | nil =>
    cases returned
    exact List.mem_singleton_self _
  | cons action actions ih =>
    obtain ⟨value, -, rest⟩ := bind_eq_ok.mp returned
    split at rest
    · exact List.mem_cons_of_mem _ (ih rest)
    · rcases List.mem_cons.mp (ih rest) with same | later
      · exact same ▸ List.mem_cons_self ..
      · exact List.mem_cons_of_mem _ (List.mem_cons_of_mem _ later)

/-- The best action is a threshold. -/
theorem bestAction_mem [LT F] [DecidableLT F] {values : Dict String F} {chosen : ℚ}
    (returned : bestAction values = .ok chosen) : chosen ∈ thresholdActions := by
  -- The best one is found among the list of actions.
  unfold bestAction at returned
  split at returned
  · cases returned
  · rename_i action actions whole
    obtain ⟨value, -, rest⟩ := bind_eq_ok.mp returned
    exact whole ▸ bestFrom_mem rest

/-- What is selected is a threshold. -/
theorem selectThreshold_mem [Zero F] [One F] [LE F] [LT F] [DecidableLT F]
    {source : RandomSource F G} {policy : ContextualBanditPolicy F} {state : State} {draws : G}
    {threshold : ℚ} (selected : (policy.selectThreshold source state draws).1 = .ok threshold) :
    threshold ∈ thresholdActions := by
  -- A random choice is a position among the thresholds.
  unfold selectThreshold at selected
  dsimp only at selected
  split at selected
  · cases selected
    exact List.get_mem ..
  · exact bestAction_mem selected

/-- The guard lets every threshold through. -/
theorem thresholdActions_inRange :
    ∀ action ∈ thresholdActions, ¬ (action < minThreshold ∨ maxThreshold < action) := by
  -- Six numbers.
  decide +kernel

/-! ### Runs -/

variable [FloatRepr F] [Zero F] [One F] [Add F] [Sub F] [Mul F] [LE F] [LT F] [DecidableLT F]

/-- A process whose table is complete and that has returned thresholds only. -/
structure Ready (process : PolicyProcess F G) : Prop where
  /-- Every value that is looked up is there. -/
  complete : CompleteTable process.policy.qTable
  /-- Everything that was returned is a threshold. -/
  returned : ∀ threshold ∈ process.thresholds, threshold ∈ thresholdActions

/-- A ready process answers with a threshold and stays ready. -/
theorem Ready.getThreshold {process : PolicyProcess F G} (ready : Ready process)
    (source : RandomSource F G) (state : State) :
    ∃ next, GuardedPolicy.step source process (.getThreshold state) = some next ∧ Ready next := by
  -- The table is complete, so a threshold is selected, and the guard lets it pass.
  obtain ⟨threshold, selected⟩ :=
    selectThreshold_returns (ready.complete state) source process.draws
  have valid := selectThreshold_mem selected
  have guarded : GuardedPolicy.getThreshold source process.policy state process.draws =
      (.ok threshold, (process.policy.selectThreshold source state process.draws).2) := by
    simp only [GuardedPolicy.getThreshold, selected, if_neg (thresholdActions_inRange threshold valid)]
  refine ⟨_, by rw [GuardedPolicy.step, guarded], ⟨?_, ?_⟩⟩
  · intro other action otherValid
    simpa only [selectThreshold_policy, valueUnder_ensureState _ _ _ otherValid] using
      ready.complete other action otherValid
  · intro other member
    rcases List.mem_append.mp member with earlier | last
    · exact ready.returned other earlier
    · exact List.mem_singleton.mp last ▸ valid

/-- A ready process learns from every reward and stays ready. -/
theorem Ready.update {process : PolicyProcess F G} (ready : Ready process)
    (source : RandomSource F G) (state : State) {action : ℚ} (valid : action ∈ thresholdActions)
    (reward : F) :
    ∃ next, GuardedPolicy.step source process (.update state action valid reward) = some next ∧
      Ready next := by
  -- Every value is there, so the lesson applies.
  obtain ⟨learned, applied⟩ := lessonOf_applies valid (ready.complete state action valid) reward
  refine ⟨{ process with
      policy := { process.policy with qTable := learned }, file := some (tableText learned) },
    by simp [GuardedPolicy.step, update_of_apply applied, saveQTable], ⟨?_, ready.returned⟩⟩
  intro other taken otherValid
  exact valueUnder_apply_exists applied otherValid (ready.complete other taken otherValid)

variable [FloatCast F] [DecidableLE F]

/-- A policy that was loaded works for all sources of randomness and all sequences of calls exactly when
each context that the file has, and that can be asked for, has a value for every threshold. -/
theorem loadedTable_usable_iff (room : Nat) (epsilon alpha : F) (file : QFile)
    (policy : ContextualBanditPolicy F) (loaded : init room epsilon alpha file = .ok policy) :
    (∀ (G : Type) (source : RandomSource F G) (draws : G) (calls : List (GuardedPolicy.Call F)),
      ∃ final, runAll (GuardedPolicy.step source) ⟨file, policy, draws, []⟩ calls = some final ∧
        ∀ threshold ∈ final.thresholds, threshold ∈ thresholdActions) ↔
      ∃ table : QTable F, loadQTable room file = .ok table ∧
        ∀ state values, table.get? (stateKey state) = some values →
          ∀ action ∈ thresholdActions, ∃ value, values.get? (actionKey action) = some value := by
  have read := (init_loads loaded).2.2
  simp only [← completeTable_iff, read, Except.ok.injEq, exists_eq_left']
  constructor
  · intro works state action valid
    -- An update of the action looks its value up.
    obtain ⟨final, run, -⟩ := works Unit ⟨fun _ => (0, ()), fun _ => (⟨0, by decide⟩, ())⟩ ()
      [.update state action valid 0]
    by_contra missing
    have refused : (lessonOf policy state action (0 : F)).apply policy.qTable = none := by
      rw [← Option.not_isSome_iff_eq_none, apply_isSome valid]
      intro there
      exact missing (Option.isSome_iff_exists.mp there)
    obtain ⟨error, raised⟩ := update_of_refused refused file .noFault
    simp [runAll, GuardedPolicy.step, raised] at run
  · intro complete G source draws calls
    have possible : ∀ (process : PolicyProcess F G) (call : GuardedPolicy.Call F), Ready process →
        ∃ next, GuardedPolicy.step source process call = some next ∧ Ready next := by
      intro process call ready
      cases call with
      | getThreshold state => exact ready.getThreshold source state
      | update state action valid reward => exact ready.update source state valid reward
    obtain ⟨final, run, ready⟩ := runAll_succeeds Ready possible
      (⟨complete, by simp⟩ : Ready (⟨file, policy, draws, []⟩ : PolicyProcess F G)) calls
    exact ⟨final, run, ready.returned⟩

/-! ### A file without values -/

/-- A table whose one context has no values. -/
def hollowTable : QTable Int :=
  -- The state is there and its actions are not.
  .ofList [("analyst|9", .empty)]

/-- The policy that is constructed from the file of this table. -/
def hollowPolicy : ContextualBanditPolicy Int :=
  -- Only the table is another one.
  { eagerPolicy with qTable := hollowTable }

/-- The file is loaded. -/
theorem hollowPolicy_constructed :
    init 2 (0 : Int) 1 (some (tableText hollowTable)) = .ok hollowPolicy := by
  -- The parameters are accepted, and the text gives the table back.
  simp [init, loadQTable_saved 0 hollowTable, hollowPolicy, eagerPolicy]

/-- The law at the file without values. -/
theorem loadedTable_usable_iff_hollow :
    (∀ (G : Type) (source : RandomSource Int G) (draws : G) (calls : List (GuardedPolicy.Call Int)),
      ∃ final, runAll (GuardedPolicy.step source)
          ⟨some (tableText hollowTable), hollowPolicy, draws, []⟩ calls = some final ∧
        ∀ threshold ∈ final.thresholds, threshold ∈ thresholdActions) ↔
      ∃ table : QTable Int, loadQTable 2 (some (tableText hollowTable)) = .ok table ∧
        ∀ state values, table.get? (stateKey state) = some values →
          ∀ action ∈ thresholdActions, ∃ value, values.get? (actionKey action) = some value :=
  -- The table loads and selecting fails on it.
  loadedTable_usable_iff 2 0 1 (some (tableText hollowTable)) hollowPolicy hollowPolicy_constructed

/-- A file whose one context has no values is loaded, and then neither a threshold is selected in that
context nor a reward learned. -/
theorem loadedTable_usable_fails :
    tableText hollowTable = "\x7b\"analyst|9\":\x7b\x7d\x7d".toList ∧
      init 2 (0 : Int) 1 (some (tableText hollowTable)) = .ok hollowPolicy ∧
      (GuardedPolicy.getThreshold steadySource hollowPolicy ⟨"analyst", 9⟩ ()).1 =
        .error (.policyError (.keyError "0.3")) ∧
      (hollowPolicy.update (some (tableText hollowTable)) ⟨"analyst", 9⟩ (3 / 10) 1 .noFault).outcome =
        .raised (.keyError "0.3") ∧
      ¬ ∃ final, runAll (GuardedPolicy.step steadySource)
        ⟨some (tableText hollowTable), hollowPolicy, (), []⟩ [.getThreshold ⟨"analyst", 9⟩] =
          some final := by
  have asked : (GuardedPolicy.getThreshold steadySource hollowPolicy ⟨"analyst", 9⟩ ()).1 =
      .error (.policyError (.keyError "0.3")) := by decide +kernel
  refine ⟨by decide +kernel, hollowPolicy_constructed, asked, by decide +kernel, fun run => ?_⟩
  -- The first call raises, so there is no run.
  obtain ⟨final, run⟩ := run
  simp [runAll, GuardedPolicy.step, asked] at run

end Absm
