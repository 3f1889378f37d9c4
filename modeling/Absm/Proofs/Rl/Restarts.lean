import Absm.Foundation.Runs
import Absm.Foundation.WholeFloat
import Absm.Proofs.Rl.QTable
import Absm.Rl.PolicyRuns

/-! Restarting the process from its file changes no threshold. -/

namespace Absm

variable {F G : Type}

open ContextualBanditPolicy

/-! ### The best action -/

section Best

variable [LT F] [DecidableLT F]

/-- Two dictionaries with the same values for all thresholds. -/
def SameValues (left right : Dict String F) : Prop :=
  -- Only the keys of actions are ever looked up.
  ∀ action ∈ thresholdActions, left.get? (actionKey action) = right.get? (actionKey action)

/-- Going on with the maximum looks at values of thresholds only. -/
theorem bestFrom_congr {left right : Dict String F} (same : SameValues left right)
    {actions : List ℚ} (valid : ∀ action ∈ actions, action ∈ thresholdActions) (best : ℚ)
    (bestValue : F) : bestFrom left best bestValue actions = bestFrom right best bestValue actions := by
  -- Each comparison is made between the same two values.
  induction actions generalizing best bestValue with
  | nil => rfl
  | cons action actions ih =>
    have rest := ih fun other member => valid other (List.mem_cons_of_mem _ member)
    have value : valueAt left action = valueAt right action := by
      rw [valueAt, valueAt, same action (valid action (List.mem_cons_self ..))]
    simp only [bestFrom, value, rest]

/-- The best action depends on the values of thresholds only. -/
theorem bestAction_congr {left right : Dict String F} (same : SameValues left right) :
    bestAction left = bestAction right := by
  -- The first threshold is the best one so far when the comparison starts.
  unfold bestAction
  split
  · rfl
  · rename_i action actions whole
    have inside : ∀ other ∈ action :: actions, other ∈ thresholdActions := by simp [whole]
    have value : valueAt left action = valueAt right action := by
      rw [valueAt, valueAt, same action (inside action (List.mem_cons_self ..))]
    have rest := bestFrom_congr same fun other member =>
      inside other (List.mem_cons_of_mem _ member)
    simp only [value, rest]

/-- Going on with the maximum returns as long as every value is there. -/
theorem bestFrom_returns {values : Dict String F} {actions : List ℚ}
    (there : ∀ action ∈ actions, ∃ value, values.get? (actionKey action) = some value) (best : ℚ)
    (bestValue : F) : ∃ chosen, bestFrom values best bestValue actions = .ok chosen := by
  -- Every value is there, and either of the two can be kept.
  induction actions generalizing best bestValue with
  | nil => exact ⟨best, rfl⟩
  | cons action actions ih =>
    obtain ⟨value, found⟩ := there action (List.mem_cons_self ..)
    have rest := ih fun other member => there other (List.mem_cons_of_mem _ member)
    by_cases better : bestValue < value
    · simpa [bestFrom, valueAt, found, better] using rest action value
    · simpa [bestFrom, valueAt, found, better] using rest best bestValue

/-- A best action is found when every threshold has a value. -/
theorem bestAction_returns {values : Dict String F}
    (there : ∀ action ∈ thresholdActions, ∃ value, values.get? (actionKey action) = some value) :
    ∃ chosen, bestAction values = .ok chosen := by
  -- The first threshold has a value, and so has each one it is compared with.
  unfold bestAction
  split
  · rename_i none
    cases none
  · rename_i action actions whole
    rw [whole] at there
    obtain ⟨value, found⟩ := there action (List.mem_cons_self ..)
    have rest := bestFrom_returns (fun other member =>
      there other (List.mem_cons_of_mem _ member)) action value
    simpa [valueAt, found] using rest

end Best

/-! ### Selecting -/

section Selecting

variable [Zero F] [One F] [LE F] [LT F] [DecidableLT F]

/-- Selecting a threshold makes the context part of the table and nothing else. -/
theorem selectThreshold_policy (source : RandomSource F G) (policy : ContextualBanditPolicy F)
    (state : State) (draws : G) :
    (policy.selectThreshold source state draws).2.1 =
      { policy with qTable := (ensureState policy.qTable (stateKey state)).1 } := by
  -- Both branches return the policy with the ensured table.
  unfold selectThreshold
  dsimp only
  split <;> rfl

/-- What is selected depends on the exploration rate and on the values of the context. -/
theorem selectThreshold_congr {left right : ContextualBanditPolicy F} {state : State}
    (epsilon : left.epsilon = right.epsilon)
    (same : ∀ action ∈ thresholdActions, valueUnder left.qTable (stateKey state) action =
      valueUnder right.qTable (stateKey state) action) (source : RandomSource F G) (draws : G) :
    (left.selectThreshold source state draws).1 = (right.selectThreshold source state draws).1 ∧
      (left.selectThreshold source state draws).2.2 =
        (right.selectThreshold source state draws).2.2 := by
  -- The draw decides in both policies alike whether to explore.
  have best : bestAction (ensureState left.qTable (stateKey state)).2 =
      bestAction (ensureState right.qTable (stateKey state)).2 :=
    bestAction_congr fun action valid => by
      rw [ensureState_value _ _ valid, ensureState_value _ _ valid, same action valid]
  by_cases explores : (source.random draws).1 < right.epsilon
  · simp [selectThreshold, epsilon, explores]
  · simp [selectThreshold, epsilon, explores, best]

/-- A threshold is selected when every threshold has a value in the context. -/
theorem selectThreshold_returns {policy : ContextualBanditPolicy F} {state : State}
    (complete : ∀ action ∈ thresholdActions,
      ∃ value, valueUnder policy.qTable (stateKey state) action = some value)
    (source : RandomSource F G) (draws : G) :
    ∃ threshold, (policy.selectThreshold source state draws).1 = .ok threshold := by
  -- Exploring never raises, and exploiting finds all the values it compares.
  obtain ⟨best, found⟩ : ∃ best,
      bestAction (ensureState policy.qTable (stateKey state)).2 = .ok best :=
    bestAction_returns fun action valid => by
      simpa only [ensureState_value _ _ valid] using complete action valid
  unfold selectThreshold
  dsimp only
  split
  · exact ⟨_, rfl⟩
  · exact ⟨best, found⟩

end Selecting

/-! ### Steps of a process -/

variable [FloatRepr F] [FloatCast F] [Zero F] [One F] [Add F] [Sub F] [Mul F] [LE F] [LT F]
  [DecidableLE F] [DecidableLT F]

/-- A threshold that is selected is returned, and the context is part of the table. -/
theorem PolicyProcess.step_select {process : PolicyProcess F G} {source : RandomSource F G}
    {state : State} {threshold : ℚ}
    (selected : (process.policy.selectThreshold source state process.draws).1 = .ok threshold)
    (room : Nat) :
    process.step room source (.select state) = some { process with
      policy := { process.policy with
        qTable := (ensureState process.policy.qTable (stateKey state)).1 }
      draws := (process.policy.selectThreshold source state process.draws).2.2
      thresholds := process.thresholds ++ [threshold] } := by
  -- The step returns what was selected.
  simp only [step, selected, selectThreshold_policy]

/-- An update that can be learned is saved. -/
theorem PolicyProcess.step_update {process : PolicyProcess F G} {state : State} {action : ℚ}
    {reward : F} {learned : QTable F}
    (applied : (lessonOf process.policy state action reward).apply process.policy.qTable =
      some learned) (room : Nat) (source : RandomSource F G) (valid : action ∈ thresholdActions) :
    process.step room source (.update state action valid reward) = some { process with
      policy := { process.policy with qTable := learned }
      file := some (tableText learned) } := by
  -- Nothing fails while the table is saved.
  simp [step, update_of_apply applied, saveQTable]

/-- A restart goes on with the table in the file. -/
theorem PolicyProcess.step_restart {process : PolicyProcess F G} {room : Nat} {table : QTable F}
    (loaded : loadQTable room process.file = .ok table) (source : RandomSource F G) :
    process.step room source .restart =
      some { process with policy := { process.policy with qTable := table } } := by
  -- The parameters are accepted again, so only the table is new.
  simp [step, init, process.policy.epsilonInRange, process.policy.alphaInRange, loaded]

/-! ### The process that is never restarted -/

/-- A process that may have been restarted and one that has not been: they agree on every value and
on all that was returned, and the file of the first holds the values of its memory. -/
structure Unnoticed (room : Nat) (process plain : PolicyProcess F G) : Prop where
  /-- They explore alike. -/
  epsilon : process.policy.epsilon = plain.policy.epsilon
  /-- They learn alike. -/
  alpha : process.policy.alpha = plain.policy.alpha
  /-- They draw alike. -/
  draws : process.draws = plain.draws
  /-- They returned the same thresholds. -/
  thresholds : process.thresholds = plain.thresholds
  /-- They agree on every value, though not on which contexts are in their tables. -/
  same : ∀ key, ∀ action ∈ thresholdActions,
    valueUnder process.policy.qTable key action = valueUnder plain.policy.qTable key action
  /-- Every threshold has a value. -/
  complete : ∀ key, ∀ action ∈ thresholdActions,
    ∃ value, valueUnder plain.policy.qTable key action = some value
  /-- Loading the file gives every value back. -/
  saved : ∃ table, loadQTable room process.file = .ok table ∧ ∀ key, ∀ action ∈ thresholdActions,
    valueUnder table key action = valueUnder process.policy.qTable key action

/-- A threshold is selected on both sides, and it is the same. -/
theorem Unnoticed.select {room : Nat} {process plain : PolicyProcess F G}
    (unnoticed : Unnoticed room process plain) (source : RandomSource F G) (state : State) :
    ∃ process' plain', process.step room source (.select state) = some process' ∧
      plain.step room source (.select state) = some plain' ∧ Unnoticed room process' plain' := by
  -- The two tables may differ in which contexts they hold, but not in the values of this one.
  obtain ⟨threshold, plainSelected⟩ :=
    selectThreshold_returns (unnoticed.complete (stateKey state)) source plain.draws
  obtain ⟨sameThreshold, sameDraws⟩ := selectThreshold_congr unnoticed.epsilon
    (unnoticed.same (stateKey state)) source plain.draws
  have selected := sameThreshold.trans plainSelected
  rw [← unnoticed.draws] at selected
  obtain ⟨table, loaded, stored⟩ := unnoticed.saved
  refine ⟨_, _, PolicyProcess.step_select selected room, PolicyProcess.step_select plainSelected room,
    { epsilon := unnoticed.epsilon
      alpha := unnoticed.alpha
      draws := by simpa only [unnoticed.draws] using sameDraws
      thresholds := by simp only [unnoticed.thresholds]
      same := fun key action valid => ?_
      complete := fun key action valid => ?_
      saved := ⟨table, loaded, fun key action valid => ?_⟩ }⟩
  · simpa only [valueUnder_ensureState _ _ _ valid] using unnoticed.same key action valid
  · simpa only [valueUnder_ensureState _ _ _ valid] using unnoticed.complete key action valid
  · simpa only [valueUnder_ensureState _ _ _ valid] using stored key action valid

/-- An update is made on both sides, and the file of the first gets the new values. -/
theorem Unnoticed.update {room : Nat} {process plain : PolicyProcess F G}
    (unnoticed : Unnoticed (room + 2) process plain) (source : RandomSource F G) (state : State)
    {action : ℚ} (valid : action ∈ thresholdActions) (reward : F) :
    ∃ process' plain',
      process.step (room + 2) source (.update state action valid reward) = some process' ∧
      plain.step (room + 2) source (.update state action valid reward) = some plain' ∧
      Unnoticed (room + 2) process' plain' := by
  -- The value is there on both sides, so the same lesson is learned on both sides.
  have lessons : lessonOf process.policy state action reward =
      lessonOf plain.policy state action reward := by
    rw [lessonOf, lessonOf, unnoticed.alpha]
  have there := unnoticed.complete (stateKey state) action valid
  obtain ⟨plainLearned, plainApplied⟩ := lessonOf_applies valid there reward
  rw [← unnoticed.same _ _ valid] at there
  obtain ⟨learned, applied⟩ := lessonOf_applies valid there reward
  refine ⟨_, _, PolicyProcess.step_update applied (room + 2) source valid,
    PolicyProcess.step_update plainApplied (room + 2) source valid,
    { epsilon := unnoticed.epsilon
      alpha := unnoticed.alpha
      draws := unnoticed.draws
      thresholds := unnoticed.thresholds
      same := fun key action valid => ?_
      complete := fun key action valid => ?_
      saved := ⟨learned, loadQTable_saved room learned, fun _ _ _ => rfl⟩ }⟩
  · rw [valueUnder_apply applied key valid, valueUnder_apply plainApplied key valid, lessons,
      unnoticed.same key action valid]
  · exact valueUnder_apply_exists plainApplied valid (unnoticed.complete key action valid)

/-- A restart on one side brings back every value. -/
theorem Unnoticed.restart {room : Nat} {process plain : PolicyProcess F G}
    (unnoticed : Unnoticed room process plain) (source : RandomSource F G) :
    ∃ process', process.step room source .restart = some process' ∧
      Unnoticed room process' plain := by
  -- Contexts that were selected but never updated are gone, which leaves their values at zero.
  obtain ⟨table, loaded, stored⟩ := unnoticed.saved
  exact ⟨_, PolicyProcess.step_restart loaded source,
    { epsilon := unnoticed.epsilon
      alpha := unnoticed.alpha
      draws := unnoticed.draws
      thresholds := unnoticed.thresholds
      same := fun key action valid => (stored key action valid).trans (unnoticed.same key action valid)
      complete := unnoticed.complete
      saved := ⟨table, loaded, fun _ _ _ => rfl⟩ }⟩

omit [Add F] [Sub F] [Mul F] in
/-- A policy that was constructed has the given parameters and the table of the file. -/
theorem init_loads {room : Nat} {epsilon alpha : F} {file : QFile}
    {policy : ContextualBanditPolicy F} (constructed : init room epsilon alpha file = .ok policy) :
    policy.epsilon = epsilon ∧ policy.alpha = alpha ∧
      loadQTable room file = .ok policy.qTable := by
  -- Both parameters were accepted before the table was loaded.
  unfold init at constructed
  split at constructed
  · split at constructed
    · obtain ⟨table, loaded, built⟩ := bind_eq_ok.mp constructed
      cases built
      exact ⟨rfl, rfl, loaded⟩
    · cases constructed
  · cases constructed

omit [Add F] [Sub F] [Mul F] in
/-- A policy that was constructed without a file starts with an empty table. -/
theorem init_absent {room : Nat} {epsilon alpha : F} {policy : ContextualBanditPolicy F}
    (constructed : init room epsilon alpha none = .ok policy) : policy.qTable = .empty :=
  -- Only the file could put anything into the table.
  (Except.ok.inj (init_loads constructed).2.2).symm

/-- Leaving the restarts out of a run changes none of the thresholds that are returned. -/
theorem restarts_transparent (room : Nat) (source : RandomSource F G) (epsilon alpha : F)
    (policy : ContextualBanditPolicy F) (constructed : init (room + 2) epsilon alpha none = .ok policy)
    (draws : G) (calls : List (PolicyCall F)) :
    ∃ final plain,
      runAll (PolicyProcess.step (room + 2) source) ⟨none, policy, draws, []⟩ calls = some final ∧
      runAll (PolicyProcess.step (room + 2) source) ⟨none, policy, draws, []⟩
        (calls.filter fun call => !call.isRestart) = some plain ∧
      final.thresholds = plain.thresholds := by
  -- Selecting and updating happen on both sides, restarting on one side only.
  have empty := init_absent constructed
  have start : Unnoticed (room + 2) (⟨none, policy, draws, []⟩ : PolicyProcess F G)
      ⟨none, policy, draws, []⟩ :=
    { epsilon := rfl
      alpha := rfl
      draws := rfl
      thresholds := rfl
      same := fun _ _ _ => rfl
      complete := fun key action _ => ⟨0, by simp [valueUnder, empty]⟩
      saved := ⟨.empty, rfl, fun key action _ => by rw [empty]⟩ }
  obtain ⟨final, plain, run, plainRun, unnoticed⟩ :=
    runAll_hides PolicyCall.isRestart (Unnoticed (room + 2))
      (fun process plain call unnoticed shown => by
        cases call with
        | select state => exact unnoticed.select source state
        | update state action valid reward => exact unnoticed.update source state valid reward
        | restart => cases shown)
      (fun process plain call unnoticed hidden => by
        cases call with
        | select state => cases hidden
        | update state action valid reward => cases hidden
        | restart => exact unnoticed.restart source)
      start calls
  exact ⟨final, plain, run, plainRun, unnoticed.thresholds⟩

/-- A source that never explores and would take the first action if it did. -/
def steadySource : RandomSource Int Unit :=
  -- It draws one, and the first of the actions.
  ⟨fun _ => (1, ()), fun _ => (⟨0, by decide⟩, ())⟩

/-- Whole rewards are learned and forgotten by a process that is restarted in between. -/
theorem restarts_transparent_whole :
    ∃ final plain,
      runAll (PolicyProcess.step 2 steadySource)
        ⟨none, (⟨0, 1, .empty, by decide, by decide⟩ : ContextualBanditPolicy Int), (), []⟩
        [.select ⟨"analyst", 9⟩, .restart, .update ⟨"analyst", 9⟩ (4 / 10) (by decide +kernel) 1,
          .restart, .select ⟨"analyst", 9⟩] = some final ∧
      runAll (PolicyProcess.step 2 steadySource)
        ⟨none, (⟨0, 1, .empty, by decide, by decide⟩ : ContextualBanditPolicy Int), (), []⟩
        [.select ⟨"analyst", 9⟩, .update ⟨"analyst", 9⟩ (4 / 10) (by decide +kernel) 1,
          .select ⟨"analyst", 9⟩] = some plain ∧
      final.thresholds = plain.thresholds :=
  -- Restarts before and after the update.
  restarts_transparent 0 steadySource 0 1 ⟨0, 1, .empty, by decide, by decide⟩ rfl ()
    [.select ⟨"analyst", 9⟩, .restart, .update ⟨"analyst", 9⟩ (4 / 10) (by decide +kernel) 1,
      .restart, .select ⟨"analyst", 9⟩]

end Absm
