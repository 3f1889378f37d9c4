import Absm.Foundation.ExactFloat
import Absm.Foundation.Hull
import Absm.Proofs.Rl.Restarts
import Absm.Rl.RewardCalculator

/-! Every context and action learns its value by itself, within the range of the rewards. -/

namespace Absm

open ContextualBanditPolicy

/-! ### Rewards of verdicts -/

/-- What happens to a policy whose rewards are computed from verdicts. -/
inductive VerdictCall (K : Type) [OfScientific K] [Neg K] (beyond : Char → List Char) where
  /-- A threshold is asked for. -/
  | select (state : State)
  /-- A verdict on an alert earns one of the thresholds a reward. -/
  | update (state : State) (action : ℚ) (valid : action ∈ thresholdActions)
      (verdict severity : String) (reward : K)
      (computed : computeReward beyond verdict severity = .ok reward)
  /-- The process ends and a new one constructs its policy from the file. -/
  | restart

section Calls

variable {K : Type} [OfScientific K] [Neg K] {beyond : Char → List Char}

/-- What the call is for the policy, which sees the reward only. -/
def VerdictCall.toCall : VerdictCall K beyond → PolicyCall K
  -- Verdict and severity are gone once the reward is computed.
  | .select state => .select state
  | .update state action valid _ _ reward _ => .update state action valid reward
  | .restart => .restart

/-- Whether a call is an update of one action in one context. -/
def VerdictCall.isAbout (state : State) (action : ℚ) : VerdictCall K beyond → Bool
  -- Selections and restarts are about nothing.
  | .update other taken _ _ _ _ _ => other = state ∧ taken = action
  | _ => false

end Calls

variable {K G : Type} [Field K] [LinearOrder K] [IsStrictOrderedRing K] {beyond : Char → List Char}

/-- Every reward lies between that of a missed critical alert and that of a true positive. -/
theorem computeReward_range {verdict severity : String} {reward : K}
    (computed : computeReward beyond verdict severity = .ok reward) : -4 ≤ reward ∧ reward ≤ 1 := by
  -- Four rewards, one for each branch.
  unfold computeReward tpReward fpReward fnReward criticalFnReward at computed
  split_ifs at computed
  all_goals
    cases computed
    constructor <;> norm_num

/-! ### The learned values -/

/-- One value for each action in each context. -/
abbrev LearnedValues (K : Type) :=
  -- Ideal values, for each state and action apart.
  State → ℚ → K

/-- The values after a call: the one that an update is about moves towards the reward. -/
def LearnedValues.learn (alpha : K) (values : LearnedValues K) :
    VerdictCall K beyond → LearnedValues K
  -- The exponential average moves one value only.
  | .update state action _ _ _ reward _ => fun other taken =>
    if other = state ∧ taken = action then values other taken + alpha * (reward - values other taken)
    else values other taken
  | _ => values

omit [LinearOrder K] [IsStrictOrderedRing K] in
/-- A value depends on the updates of its own action in its own context only. -/
theorem LearnedValues.learn_independent (alpha : K) (state : State) (action : ℚ)
    (values : LearnedValues K) (calls : List (VerdictCall K beyond)) :
    calls.foldl (learn alpha) values state action =
      (calls.filter (VerdictCall.isAbout state action)).foldl (learn alpha) values state action := by
  -- Calls about other pairs change nothing here, and calls about this pair look at nothing else.
  refine foldl_filter_reading (learn alpha) (fun values => values state action)
    (VerdictCall.isAbout state action) ?_ ?_ rfl calls
  · intro first second call same
    cases call with
    | update other taken valid verdict severity reward computed => simp only [learn, same]
    | select other => exact same
    | restart => exact same
  · intro values call other
    cases call with
    | update updated taken valid verdict severity reward computed =>
      have differs : ¬ (state = updated ∧ action = taken) := by
        rintro ⟨rfl, rfl⟩
        simp [VerdictCall.isAbout] at other
      simp only [learn, if_neg differs]
    | select other => rfl
    | restart => rfl

/-! ### The range of a table -/

section Range

variable {F : Type} [LE F]

/-- Every value of a table lies between two bounds. -/
def ValuesBetween (low high : F) (table : QTable F) : Prop :=
  -- Every entry of every state.
  ∀ key values, table.get? key = some values →
    ∀ name value, values.get? name = some value → low ≤ value ∧ value ≤ high

/-- A table without entries has no value that is out of bounds. -/
theorem valuesBetween_empty (low high : F) : ValuesBetween low high .empty := by
  -- There is no entry.
  intro key values found
  cases found

/-- Ensuring a context adds zeros only. -/
theorem ValuesBetween.ensureState [Zero F] {low high : F} {table : QTable F}
    (between : ValuesBetween low high table) (zero : low ≤ 0 ∧ 0 ≤ high) (key : String) :
    ValuesBetween low high (ContextualBanditPolicy.ensureState table key).1 := by
  cases found : table.get? key with
  | some values => simpa only [ContextualBanditPolicy.ensureState, found] using between
  | none =>
    simp only [ContextualBanditPolicy.ensureState, found]
    intro other values there name value read
    rw [Dict.get?_set] at there
    split at there
    · cases there
      -- The new context consists of zeros.
      have keys : ((thresholdActions.map fun action => (actionKey action, (0 : F))).map
          Prod.fst).Nodup := by
        rw [List.map_map]
        exact actionKey_nodup
      have entry := Dict.mem_entries_iff.mpr read
      rw [Dict.ofList_entries keys] at entry
      obtain ⟨action, -, same⟩ := List.mem_map.mp entry
      cases same
      exact zero
    · exact between other values there name value read

/-- A lesson whose move stays within the bounds keeps the table within them. -/
theorem ValuesBetween.apply [Zero F] [Add F] [Sub F] [Mul F] {low high : F}
    {table learned : QTable F} {lesson : Lesson F} (between : ValuesBetween low high table)
    (zero : low ≤ 0 ∧ 0 ≤ high)
    (moves : ∀ value, low ≤ value ∧ value ≤ high →
      low ≤ lesson.move value ∧ lesson.move value ≤ high)
    (applied : lesson.apply table = some learned) : ValuesBetween low high learned := by
  -- The one value that moves is that of an action in a context that has been created if need be.
  have ensured := between.ensureState zero (stateKey lesson.state)
  unfold Lesson.apply at applied
  split at applied
  case isFalse => cases applied
  case isTrue =>
    obtain ⟨old, found, rfl⟩ := Option.map_eq_some_iff.mp applied
    have context := ensureState_get? table (stateKey lesson.state)
    intro key values there name value read
    rw [Dict.get?_set] at there
    split at there
    · cases there
      rw [Dict.get?_set] at read
      split at read
      · cases read
        exact moves old (ensured _ _ context _ _ found)
      · exact ensured _ _ context name value read
    · exact ensured key values there name value read

end Range

/-! ### The process learns them -/

variable [FloatRepr K] [FloatCast K]

/-- A process whose memory and file hold given values, all within bounds. -/
structure Tracks (room : Nat) (low high : K) (values : LearnedValues K) (process : PolicyProcess K G) :
    Prop where
  /-- The memory holds the values. -/
  memory : ∀ state, ∀ action ∈ thresholdActions,
    valueUnder process.policy.qTable (stateKey state) action = some (values state action)
  /-- The memory is within the bounds. -/
  inRange : ValuesBetween low high process.policy.qTable
  /-- The file holds the values, within the bounds. -/
  saved : ∃ table, loadQTable room process.file = .ok table ∧ ValuesBetween low high table ∧
    ∀ state, ∀ action ∈ thresholdActions,
      valueUnder table (stateKey state) action = some (values state action)

omit [IsStrictOrderedRing K] in
/-- Selecting a threshold changes no value. -/
theorem Tracks.select {room : Nat} {low high : K} {values : LearnedValues K}
    {process : PolicyProcess K G} (tracks : Tracks room low high values process)
    (zero : low ≤ 0 ∧ 0 ≤ high) (source : RandomSource K G) (state : State) :
    ∃ next, process.step room source (.select state) = some next ∧
      Tracks room low high values next ∧ next.policy.alpha = process.policy.alpha := by
  -- A selection adds zeros at most.
  obtain ⟨threshold, selected⟩ := selectThreshold_returns
    (fun action valid => ⟨_, tracks.memory state action valid⟩) source process.draws
  refine ⟨_, PolicyProcess.step_select selected room,
    ⟨?_, tracks.inRange.ensureState zero _, tracks.saved⟩, rfl⟩
  intro other action valid
  simpa only [valueUnder_ensureState _ _ _ valid] using tracks.memory other action valid

omit [IsStrictOrderedRing K] in
/-- A restart brings back what the file holds, which is what the memory held. -/
theorem Tracks.restart {room : Nat} {low high : K} {values : LearnedValues K}
    {process : PolicyProcess K G} (tracks : Tracks room low high values process)
    (source : RandomSource K G) :
    ∃ next, process.step room source .restart = some next ∧ Tracks room low high values next ∧
      next.policy.alpha = process.policy.alpha := by
  -- The file holds the same table.
  obtain ⟨table, loaded, inRange, stored⟩ := tracks.saved
  exact ⟨_, PolicyProcess.step_restart loaded source,
    ⟨stored, inRange, table, loaded, inRange, stored⟩, rfl⟩

/-- An update moves one value towards its reward, in memory and in the file. -/
theorem Tracks.update {room : Nat} {low high : K} {values : LearnedValues K}
    {process : PolicyProcess K G} (tracks : Tracks (room + 2) low high values process)
    (zero : low ≤ 0 ∧ 0 ≤ high) (source : RandomSource K G) (state : State) {action : ℚ}
    (valid : action ∈ thresholdActions) {reward : K} (inScale : low ≤ reward ∧ reward ≤ high) :
    ∃ next, process.step (room + 2) source (.update state action valid reward) = some next ∧
      Tracks (room + 2) low high (fun other taken =>
        if other = state ∧ taken = action then
          values other taken + process.policy.alpha * (reward - values other taken)
        else values other taken) next ∧ next.policy.alpha = process.policy.alpha := by
  obtain ⟨learned, applied⟩ :=
    lessonOf_applies valid ⟨_, tracks.memory state action valid⟩ reward
  -- The weighted mean of a value and a reward lies between them.
  have moves : ∀ value, low ≤ value ∧ value ≤ high →
      low ≤ (lessonOf process.policy state action reward).move value ∧
        (lessonOf process.policy state action reward).move value ≤ high := by
    intro value inside
    obtain ⟨lower, upper⟩ := mix_between (x := value) (y := reward) process.policy.alphaInRange.1
      process.policy.alphaInRange.2
    have mixed : (lessonOf process.policy state action reward).move value =
        process.policy.alpha * reward + (1 - process.policy.alpha) * value := by
      simp only [lessonOf, Lesson.move]
      ring
    rw [mixed]
    exact ⟨(le_min inside.1 inScale.1).trans lower, upper.trans (max_le inside.2 inScale.2)⟩
  have inRange := tracks.inRange.apply zero moves applied
  have stored : ∀ other, ∀ taken ∈ thresholdActions, valueUnder learned (stateKey other) taken =
      some (if other = state ∧ taken = action then
        values other taken + process.policy.alpha * (reward - values other taken)
        else values other taken) := by
    intro other taken takenValid
    rw [valueUnder_apply applied _ takenValid, tracks.memory other taken takenValid]
    -- Only the context itself has its key.
    have keys : stateKey other = stateKey state ↔ other = state :=
      ⟨stateKey_inj, fun same => congrArg stateKey same⟩
    simp only [lessonOf, Lesson.move, keys, Option.map_some]
    split <;> rfl
  exact ⟨_, PolicyProcess.step_update applied (room + 2) source valid,
    ⟨stored, inRange, learned, loadQTable_saved room learned, inRange, stored⟩, rfl⟩

/-- From an empty table every sequence of calls leads to the values that they teach, within the range of
the rewards. -/
theorem learned_run (room : Nat) (source : RandomSource K G) {epsilon alpha : K}
    {policy : ContextualBanditPolicy K} (constructed : init (room + 2) epsilon alpha none = .ok policy)
    (draws : G) (calls : List (VerdictCall K beyond)) :
    ∃ final, runAll (PolicyProcess.step (room + 2) source) ⟨none, policy, draws, []⟩
        (calls.map VerdictCall.toCall) = some final ∧
      Tracks (room + 2) (-4) 1 (calls.foldl (LearnedValues.learn alpha) fun _ _ => 0) final := by
  have zero : (-4 : K) ≤ 0 ∧ (0 : K) ≤ 1 := by constructor <;> norm_num
  have empty := init_absent constructed
  have start : Tracks (room + 2) (-4) 1 (fun _ _ => 0)
      (⟨none, policy, draws, []⟩ : PolicyProcess K G) :=
    { memory := fun state action _ => by simp [valueUnder, empty]
      inRange := by
        rw [empty]
        exact valuesBetween_empty _ _
      saved := ⟨.empty, rfl, valuesBetween_empty _ _, fun _ _ _ => rfl⟩ }
  -- The process follows the machine that learns the values and never refuses a call.
  have followed : ∀ (values : LearnedValues K) (process : PolicyProcess K G)
      (call : VerdictCall K beyond) (values' : LearnedValues K),
      Tracks (room + 2) (-4) 1 values process ∧ process.policy.alpha = alpha →
      some (LearnedValues.learn alpha values call) = some values' →
      ∃ next, process.step (room + 2) source call.toCall = some next ∧
        Tracks (room + 2) (-4) 1 values' next ∧ next.policy.alpha = alpha := by
    intro values process call values' related taken
    obtain ⟨tracks, rfl⟩ := related
    cases taken
    cases call with
    | select state => exact tracks.select zero source state
    | update state action valid verdict severity reward computed =>
      exact tracks.update zero source state valid (computeReward_range computed)
    | restart => exact tracks.restart source
  obtain ⟨final, run, tracks, -⟩ := runAll_simulates VerdictCall.toCall
    (fun values process => Tracks (room + 2) (-4) 1 values process ∧ process.policy.alpha = alpha)
    followed ⟨start, (init_loads constructed).2.1⟩
    (runAll_some (LearnedValues.learn alpha) _ calls)
  exact ⟨final, run, tracks⟩

/-- Every value that is learned from verdicts stays between minus four and one, and the value of an
action in a context is that of the run that keeps the updates of this action in this context only. -/
theorem learnedValues_independent (room : Nat) (source : RandomSource K G) (epsilon alpha : K)
    (policy : ContextualBanditPolicy K) (constructed : init (room + 2) epsilon alpha none = .ok policy)
    (draws : G) (calls : List (VerdictCall K beyond)) :
    ∃ final, runAll (PolicyProcess.step (room + 2) source) ⟨none, policy, draws, []⟩
        (calls.map VerdictCall.toCall) = some final ∧
      ValuesBetween (-4) 1 final.policy.qTable ∧
      (∃ table : QTable K, loadQTable (room + 2) final.file = .ok table ∧ ValuesBetween (-4) 1 table) ∧
      ∀ state, ∀ action ∈ thresholdActions, ∃ only,
        runAll (PolicyProcess.step (room + 2) source) ⟨none, policy, draws, []⟩
          ((calls.filter (VerdictCall.isAbout state action)).map VerdictCall.toCall) = some only ∧
        valueUnder final.policy.qTable (stateKey state) action =
          valueUnder only.policy.qTable (stateKey state) action := by
  obtain ⟨final, run, tracks⟩ := learned_run room source constructed draws calls
  obtain ⟨table, loaded, inRange, -⟩ := tracks.saved
  refine ⟨final, run, tracks.inRange, ⟨table, loaded, inRange⟩, fun state action valid => ?_⟩
  obtain ⟨only, onlyRun, onlyTracks⟩ := learned_run room source constructed draws
    (calls.filter (VerdictCall.isAbout state action))
  -- Both runs teach the same value of this action in this context.
  refine ⟨only, onlyRun, ?_⟩
  rw [tracks.memory state action valid, onlyTracks.memory state action valid,
    LearnedValues.learn_independent]

/-- A policy that always takes over the last reward. -/
def verdictPolicy : ContextualBanditPolicy ExactFloat :=
  -- Empty, without exploration and moving all the way.
  ⟨0, 1, .empty, ⟨le_rfl, zero_le_one⟩, ⟨zero_lt_one, le_rfl⟩⟩

/-- The constructor accepts its parameters. -/
theorem verdictPolicy_constructed : init 2 (0 : ExactFloat) 1 none = .ok verdictPolicy := by
  -- Without a file the table is empty.
  simp [init, loadQTable, verdictPolicy]

/-- A source that never explores. -/
def neverExplores : RandomSource ExactFloat Unit :=
  -- Its draws are never below the probability of exploring.
  ⟨fun _ => (1, ()), steadySource.choice⟩

/-- A true positive, a restart and a missed critical alert, in two contexts whose roles contain the
separator. -/
def verdictCalls : List (VerdictCall ExactFloat fun c => [c]) :=
  -- One state is updated, and after a restart another.
  [.update ⟨"a|1", 2⟩ (3 / 10) (by decide +kernel) "TP" "low" tpReward (by simp [computeReward]),
    .restart, .select ⟨"a", 12⟩,
    .update ⟨"a", 12⟩ (3 / 10) (by decide +kernel) "FN" "critical" criticalFnReward
      (by simp [computeReward, show lower (fun c => [c]) "critical" = "critical" by decide +kernel])]

/-- The law at these calls. -/
theorem learnedValues_independent_two :
    ∃ final, runAll (PolicyProcess.step 2 neverExplores) ⟨none, verdictPolicy, (), []⟩
        (verdictCalls.map VerdictCall.toCall) = some final ∧
      ValuesBetween (-4) 1 final.policy.qTable ∧
      (∃ table : QTable ExactFloat, loadQTable 2 final.file = .ok table ∧ ValuesBetween (-4) 1 table) ∧
      ∀ state, ∀ action ∈ thresholdActions, ∃ only,
        runAll (PolicyProcess.step 2 neverExplores) ⟨none, verdictPolicy, (), []⟩
          ((verdictCalls.filter (VerdictCall.isAbout state action)).map VerdictCall.toCall) =
            some only ∧
        valueUnder final.policy.qTable (stateKey state) action =
          valueUnder only.policy.qTable (stateKey state) action :=
  -- Two states whose keys differ.
  learnedValues_independent 0 neverExplores 0 1 verdictPolicy verdictPolicy_constructed () verdictCalls

end Absm
