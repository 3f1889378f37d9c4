import Mathlib.Algebra.Order.Archimedean.Basic
import Mathlib.Order.Filter.AtTopBot.Basic
import Mathlib.Order.Filter.Finite
import Absm.Foundation.FirstGreatest
import Absm.Proofs.Rl.LearnedValues
import Absm.Proofs.Rl.LoadedTables

/-! An action that keeps earning one reward gets that value, and is chosen when it is the best one. -/

namespace Absm

open ContextualBanditPolicy

/-! ### The best action is the first one of greatest value -/

section Best

variable {F : Type} [LinearOrder F]

/-- Going on with the maximum ends with the first action of greatest value. -/
theorem bestFrom_firstGreatest {values : Dict String F} {value : ℚ → F} {actions : List ℚ} {best : ℚ}
    (there : ∀ action ∈ best :: actions, values.get? (actionKey action) = some (value action)) :
    ∃ chosen, bestFrom values best (value best) actions = .ok chosen ∧
      firstGreatest value (best :: actions) = some chosen := by
  -- Each comparison keeps the best action or displaces it.
  induction actions generalizing best with
  | nil => exact ⟨best, rfl, by simp [firstGreatest]⟩
  | cons action actions ih =>
    obtain ⟨bestThere, rest⟩ := List.forall_mem_cons.mp there
    obtain ⟨actionThere, later⟩ := List.forall_mem_cons.mp rest
    by_cases more : value best < value action
    · rw [firstGreatest_displaced value more]
      simpa [bestFrom, valueAt, actionThere, more] using ih rest
    · rw [firstGreatest_kept value (not_lt.mp more)]
      simpa [bestFrom, valueAt, actionThere, more] using
        ih (List.forall_mem_cons.mpr ⟨bestThere, later⟩)

/-- The best action is the first threshold of greatest value. -/
theorem bestAction_firstGreatest {values : Dict String F} {value : ℚ → F}
    (there : ∀ action ∈ thresholdActions, values.get? (actionKey action) = some (value action)) :
    ∃ chosen, bestAction values = .ok chosen ∧
      firstGreatest value thresholdActions = some chosen := by
  -- The loop over the actions carries the first greatest one so far.
  unfold bestAction
  split
  · rename_i none
    cases none
  · rename_i action actions whole
    rw [whole] at there ⊢
    simpa [valueAt, there action (List.mem_cons_self ..)] using bestFrom_firstGreatest there

end Best

/-! ### Updates by one reward -/

section Run

variable {F G : Type} [FloatRepr F] [Zero F] [One F] [Add F] [Sub F] [Mul F] [LE F] [LT F]

/-- A policy and the file of its table after a number of updates by one reward. -/
def afterRewards (policy : ContextualBanditPolicy F) (file : QFile) (state : State) (action : ℚ)
    (reward : F) : ℕ → ContextualBanditPolicy F × QFile
  -- Each update saves, and the next one starts from its policy and file.
  | 0 => (policy, file)
  | updates + 1 =>
    let before := afterRewards policy file state action reward updates
    let updated := before.1.update before.2 state action reward .noFault
    (updated.policy, updated.file)

/-- Every update of the run returns; it moves the value that it is about and no other one. -/
theorem afterRewards_value {policy : ContextualBanditPolicy F} {state : State} {action : ℚ}
    (valid : action ∈ thresholdActions) {initial : F}
    (there : valueUnder policy.qTable (stateKey state) action = some initial) (file : QFile)
    (reward : F) (updates : ℕ) :
    let after := afterRewards policy file state action reward updates
    after.1.epsilon = policy.epsilon ∧ after.1.alpha = policy.alpha ∧
      (after.1.update after.2 state action reward .noFault).outcome = .returned ∧
      valueUnder after.1.qTable (stateKey state) action =
        some ((fun value => value + policy.alpha * (reward - value))^[updates] initial) ∧
      ∀ key, ∀ other ∈ thresholdActions, ¬ (key = stateKey state ∧ other = action) →
        valueUnder after.1.qTable key other = valueUnder policy.qTable key other := by
  induction updates with
  | zero =>
    obtain ⟨learned, applied⟩ := lessonOf_applies valid ⟨initial, there⟩ reward
    exact ⟨rfl, rfl, by rw [afterRewards, update_of_apply applied]; rfl, there, fun _ _ _ _ => rfl⟩
  | succ updates ih =>
    obtain ⟨epsilon, alpha, -, value, others⟩ := ih
    simp only [afterRewards]
    generalize afterRewards policy file state action reward updates = before at *
    obtain ⟨learned, applied⟩ := lessonOf_applies valid ⟨_, value⟩ reward
    -- The value is there again after the update.
    have moved := valueUnder_apply applied
    have remains := valueUnder_apply_exists applied valid ⟨_, value⟩
    let after : ContextualBanditPolicy F := { before.1 with qTable := learned }
    obtain ⟨again, reapplied⟩ : ∃ again,
        (lessonOf after state action reward).apply learned = some again :=
      lessonOf_applies valid remains reward
    simp only [update_of_apply applied]
    refine ⟨epsilon, alpha, by rw [update_of_apply reapplied]; rfl, ?_, ?_⟩
    · rw [moved _ valid, if_pos ⟨rfl, rfl⟩, value, Function.iterate_succ_apply']
      simp only [Option.map_some, lessonOf, Lesson.move, alpha]
    · intro key other otherValid elsewhere
      exact (moved key otherValid).trans
        ((if_neg elsewhere).trans (others key other otherValid elsewhere))

/-- A policy that does not explore selects a threshold in a context. -/
def Exploits [DecidableLT F] (policy : ContextualBanditPolicy F) (state : State) (chosen : ℚ) : Prop :=
  -- For every source of randomness that draws no exploration.
  ∀ (G : Type) (source : RandomSource F G) (draws : G), ¬ (source.random draws).1 < policy.epsilon →
    (policy.selectThreshold source state draws).1 = .ok chosen

end Run

/-! ### Exact arithmetic -/

section Exact

variable {K : Type} [Field K] [LinearOrder K]

/-- A policy that does not explore selects the first threshold of greatest value. -/
theorem exploits_firstGreatest {policy : ContextualBanditPolicy K} {state : State} {value : ℚ → K}
    (there : ∀ action ∈ thresholdActions,
      valueUnder policy.qTable (stateKey state) action = some (value action)) :
    ∃ chosen, Exploits policy state chosen ∧ firstGreatest value thresholdActions = some chosen := by
  -- The context is completed by zeros before the best action is looked for.
  have ensured : ∀ action ∈ thresholdActions,
      (ensureState policy.qTable (stateKey state)).2.get? (actionKey action) = some (value action) :=
    fun action valid => (ensureState_value _ _ valid).trans (there action valid)
  obtain ⟨chosen, best, first⟩ := bestAction_firstGreatest ensured
  refine ⟨chosen, fun G source draws exploits => ?_, first⟩
  simpa [selectThreshold, exploits] using best

omit [LinearOrder K] in
/-- The value after some updates by one reward: the distance to the reward shrinks by the rest of the
learning rate each time. -/
theorem iterate_towards (alpha reward initial : K) (updates : ℕ) :
    (fun value => value + alpha * (reward - value))^[updates] initial =
      reward + (1 - alpha) ^ updates * (initial - reward) := by
  -- One more update multiplies the distance by the rest of the rate.
  induction updates with
  | zero => simp
  | succ updates ih =>
    rw [Function.iterate_succ_apply', ih, pow_succ]
    ring

/-- A policy whose value of one action exceeds those of the others selects it. -/
theorem exploits_greatest {policy : ContextualBanditPolicy K} {state : State} {action : ℚ}
    (valid : action ∈ thresholdActions) {value : ℚ → K} {current : K}
    (own : valueUnder policy.qTable (stateKey state) action = some current)
    (others : ∀ other ∈ thresholdActions, other ≠ action →
      valueUnder policy.qTable (stateKey state) other = some (value other))
    (greatest : ∀ other ∈ thresholdActions, other ≠ action → value other < current) :
    Exploits policy state action := by
  -- With the value of the action put in, the values of the context are those of one function.
  have there : ∀ other ∈ thresholdActions, valueUnder policy.qTable (stateKey state) other =
      some (Function.update value action current other) := by
    intro other otherValid
    rcases eq_or_ne other action with rfl | differs
    · rw [own, Function.update_self]
    · rw [others other otherValid differs, Function.update_of_ne differs]
  obtain ⟨chosen, selects, first⟩ := exploits_firstGreatest there
  have wins : chosen = action := by
    refine firstGreatest_unique first valid fun other otherValid differs => ?_
    rw [Function.update_self, Function.update_of_ne differs]
    exact greatest other otherValid differs
  exact wins ▸ selects

variable [IsStrictOrderedRing K]

/-- A value that moves towards a reward ends up above everything below the reward. -/
theorem eventually_above [Archimedean K] {alpha : K} (inRange : 0 < alpha ∧ alpha ≤ 1)
    {reward bound : K} (below : bound < reward) (initial : K) :
    ∀ᶠ updates : ℕ in Filter.atTop, bound < reward + (1 - alpha) ^ updates * (initial - reward) := by
  obtain ⟨positive, atMost⟩ := inRange
  have nonneg : 0 ≤ 1 - alpha := by linarith
  rcases le_or_gt reward initial with above | under
  · -- From above the value never falls below the reward.
    refine Filter.Eventually.of_forall fun updates => ?_
    have kept : 0 ≤ (1 - alpha) ^ updates * (initial - reward) :=
      mul_nonneg (pow_nonneg nonneg _) (by linarith)
    linarith
  · -- From below it is short of the reward by less than the bound is from some update on.
    have gap : 0 < reward - initial := by linarith
    obtain ⟨enough, small⟩ := exists_pow_lt_of_lt_one
      (div_pos (by linarith : 0 < reward - bound) gap) (by linarith : 1 - alpha < 1)
    refine Filter.eventually_atTop.mpr ⟨enough, fun updates later => ?_⟩
    have smaller : (1 - alpha) ^ updates ≤ (1 - alpha) ^ enough :=
      pow_le_pow_of_le_one nonneg (by linarith) later
    have short : (1 - alpha) ^ updates * (reward - initial) < reward - bound :=
      (lt_div_iff₀ gap).mp (smaller.trans_lt small)
    linarith

variable [FloatRepr K]

/-- Updates by one reward move the value of their action towards it at a geometric rate and change no other
value; a policy that does not explore selects the first threshold of greatest value, which is this action
from some update on if the reward exceeds the other values, and from the first one on if it is positive and
the context is new. -/
theorem consistentReward_wins [Archimedean K] (policy : ContextualBanditPolicy K) (file : QFile)
    (state : State) (value : ℚ → K)
    (there : ∀ other ∈ thresholdActions,
      valueUnder policy.qTable (stateKey state) other = some (value other))
    (action : ℚ) (valid : action ∈ thresholdActions) (reward : K) :
    let after := afterRewards policy file state action reward
    (∀ updates, ((after updates).1.update (after updates).2 state action reward .noFault).outcome =
        .returned ∧
      valueUnder (after updates).1.qTable (stateKey state) action =
        some (reward + (1 - policy.alpha) ^ updates * (value action - reward)) ∧
      ∀ key, ∀ other ∈ thresholdActions, ¬ (key = stateKey state ∧ other = action) →
        valueUnder (after updates).1.qTable key other = valueUnder policy.qTable key other) ∧
    (∃ chosen, Exploits policy state chosen ∧ firstGreatest value thresholdActions = some chosen) ∧
    ((∀ other ∈ thresholdActions, other ≠ action → value other < reward) →
      ∃ enough, ∀ updates ≥ enough, Exploits (after updates).1 state action) ∧
    (policy.qTable.get? (stateKey state) = none → 0 < reward →
      ∀ updates ≥ 1, Exploits (after updates).1 state action) := by
  intro after
  have run : ∀ updates, _ := afterRewards_value valid (there action valid) file reward
  simp only [iterate_towards] at run
  have others : ∀ updates, ∀ other ∈ thresholdActions, other ≠ action →
      valueUnder (after updates).1.qTable (stateKey state) other = some (value other) := by
    intro updates other otherValid differs
    obtain ⟨-, -, -, -, kept⟩ := run updates
    exact (kept _ other otherValid fun same => differs same.2).trans (there other otherValid)
  refine ⟨fun updates => ?_, exploits_firstGreatest there, fun below => ?_, fun fresh positive => ?_⟩
  · obtain ⟨-, -, returned, moved, kept⟩ := run updates
    exact ⟨returned, moved, kept⟩
  · -- For each of the other actions there is such an update, and there are finitely many of them.
    have eventually : ∀ᶠ updates : ℕ in Filter.atTop,
        ∀ other ∈ thresholdActions.toFinset.erase action,
          value other < reward + (1 - policy.alpha) ^ updates * (value action - reward) := by
      refine (Filter.eventually_all_finset _).mpr fun other member => ?_
      obtain ⟨differs, inside⟩ := Finset.mem_erase.mp member
      exact eventually_above policy.alphaInRange
        (below other (List.mem_toFinset.mp inside) differs) (value action)
    obtain ⟨enough, wins⟩ := Filter.eventually_atTop.mp eventually
    refine ⟨enough, fun updates later => ?_⟩
    obtain ⟨-, -, -, moved, -⟩ := run updates
    refine exploits_greatest valid moved (others updates) fun other otherValid differs => ?_
    exact wins updates later other
      (Finset.mem_erase.mpr ⟨differs, List.mem_toFinset.mpr otherValid⟩)
  · intro updates later
    obtain ⟨-, -, -, moved, -⟩ := run updates
    -- In a new context all values are zero.
    have zero : ∀ other ∈ thresholdActions, value other = 0 := by
      intro other otherValid
      have read := there other otherValid
      rw [valueUnder, fresh] at read
      exact (Option.some.inj read).symm
    refine exploits_greatest valid moved (others updates) fun other otherValid _ => ?_
    have less : (1 - policy.alpha) ^ updates < 1 := pow_lt_one₀
      (by linarith [policy.alphaInRange.2]) (by linarith [policy.alphaInRange.1]) (by omega)
    have short : (1 - policy.alpha) ^ updates * reward < 1 * reward :=
      mul_lt_mul_of_pos_right less positive
    rw [zero other otherValid, zero action valid]
    linarith

end Exact

instance : Archimedean ExactFloat := inferInstanceAs (Archimedean ℚ)

/-- A policy that has learned nothing yet and goes half the way to each reward. -/
def halfwayPolicy : ContextualBanditPolicy ExactFloat :=
  -- Starts at an empty table and learns by halves.
  ⟨0, 0.5, .empty, verdictPolicy.epsilonInRange, by norm_num⟩

/-- The middle threshold wins in a new context. -/
theorem consistentReward_wins_middle :
    let after := afterRewards halfwayPolicy none ⟨"analyst", 9⟩ (5 / 10) 1
    (∀ updates, ((after updates).1.update (after updates).2 ⟨"analyst", 9⟩ (5 / 10) 1
        .noFault).outcome = .returned ∧
      valueUnder (after updates).1.qTable (stateKey ⟨"analyst", 9⟩) (5 / 10) =
        some (1 + (1 - halfwayPolicy.alpha) ^ updates * (0 - 1)) ∧
      ∀ key, ∀ other ∈ thresholdActions, ¬ (key = stateKey ⟨"analyst", 9⟩ ∧ other = 5 / 10) →
        valueUnder (after updates).1.qTable key other =
          valueUnder halfwayPolicy.qTable key other) ∧
    (∃ chosen, Exploits halfwayPolicy ⟨"analyst", 9⟩ chosen ∧
      firstGreatest (fun _ => (0 : ExactFloat)) thresholdActions = some chosen) ∧
    ((∀ other ∈ thresholdActions, other ≠ 5 / 10 → (0 : ExactFloat) < 1) →
      ∃ enough, ∀ updates ≥ enough, Exploits (after updates).1 ⟨"analyst", 9⟩ (5 / 10)) ∧
    (halfwayPolicy.qTable.get? (stateKey ⟨"analyst", 9⟩) = none → (0 : ExactFloat) < 1 →
      ∀ updates ≥ 1, Exploits (after updates).1 ⟨"analyst", 9⟩ (5 / 10)) :=
  -- One state and the action in the middle.
  consistentReward_wins halfwayPolicy none ⟨"analyst", 9⟩ (fun _ => 0) (fun _ _ => rfl) (5 / 10)
    (by decide +kernel) 1

end Absm
