import Absm.Foundation.WholeFloat
import Absm.Proofs.Rl.QTable

/-! What a failed save does to the table in memory and to the table in the file. -/

namespace Absm

variable {F : Type} [FloatRepr F] [FloatCast F] [Zero F] [One F] [Add F] [Sub F] [Mul F]
  [LE F] [LT F] [DecidableLE F] [DecidableLT F]

open ContextualBanditPolicy

/-! ### The law -/

/-- The file holds one whole table, that of before or that of after, and a raise undoes nothing more
than it did: it leaves the table in memory as it was. -/
def AllOrNothing (room : Nat) (policy : ContextualBanditPolicy F) (file : QFile) (stored : QTable F)
    (state : State) (action : ℚ) (reward : F) (fault : SaveFault) : Prop :=
  -- A reload gives the old table or the new one, and a raise leaves the one in memory.
  let updated := policy.update file state action reward fault
  (∃ reloaded, init room policy.epsilon policy.alpha updated.file = .ok reloaded ∧
    (reloaded.qTable = stored ∨
      reloaded.qTable = (policy.update file state action reward .noFault).policy.qTable)) ∧
  ((∃ error, updated.outcome = .raised error) → updated.policy.qTable = policy.qTable)

/-- The update is refused: the action is no threshold, or its context lacks a value for it. -/
def Refused (policy : ContextualBanditPolicy F) (state : State) (action : ℚ) : Prop :=
  -- The update is refused before the file is opened.
  action ∉ thresholdActions ∨ ∃ values, policy.qTable.get? (stateKey state) = some values ∧
    values.get? (actionKey action) = none

/-- The context is in the table, and the reward does not move the value of the action. -/
def Unmoved (policy : ContextualBanditPolicy F) (state : State) (action : ℚ) (reward : F) : Prop :=
  -- The value is where the reward would move it.
  ∃ values value, policy.qTable.get? (stateKey state) = some values ∧
    values.get? (actionKey action) = some value ∧ value + policy.alpha * (reward - value) = value

/-- The failures that do no harm: nothing is left to undo, and the file was not yet touched or holds
the whole text. -/
def Harmless (policy : ContextualBanditPolicy F) (state : State) (action : ℚ) (reward : F) :
    SaveFault → Prop
  -- A fault does no harm when nothing has to be written, or when all of it was.
  | .noFault => True
  | .openFails => Refused policy state action ∨ Unmoved policy state action reward
  | .writeFails missing | .closeFails missing =>
    Refused policy state action ∨ missing = 0 ∧ Unmoved policy state action reward
  | .killedBeforeOpen => True
  | .killedWriting missing => Refused policy state action ∨ missing = 0

/-! ### Updates that change nothing -/

omit [FloatRepr F] [FloatCast F] [DecidableLE F] [DecidableLT F] in
/-- The lessons that cannot be learned are those of refused updates. -/
theorem apply_eq_none_iff {policy : ContextualBanditPolicy F} {state : State} {action : ℚ}
    {reward : F} :
    (lessonOf policy state action reward).apply policy.qTable = none ↔
      Refused policy state action := by
  -- A context that is new to the table has all its values.
  by_cases valid : action ∈ thresholdActions
  · have missing := ensureState_value policy.qTable (stateKey state) valid
    simp only [Lesson.apply, lessonOf, valid, if_true, Option.map_eq_none_iff, missing, valueUnder,
      Refused, not_true_eq_false, false_or]
    cases found : policy.qTable.get? (stateKey state) <;> simp
  · simp [Lesson.apply, lessonOf, valid, Refused]

omit [FloatRepr F] [FloatCast F] [DecidableLE F] [DecidableLT F] in
/-- Learning changes the table unless the reward left the value where it was. -/
theorem apply_eq_self_iff {policy : ContextualBanditPolicy F} {state : State} {action : ℚ}
    {reward : F} {learned : QTable F}
    (applied : (lessonOf policy state action reward).apply policy.qTable = some learned) :
    learned = policy.qTable ↔ Unmoved policy state action reward := by
  -- The lesson writes one value under keys that may have been there already.
  unfold Lesson.apply at applied
  split at applied
  case isFalse => cases applied
  case isTrue valid =>
    obtain ⟨value, found, rfl⟩ := Option.map_eq_some_iff.mp applied
    simp only [lessonOf, Lesson.move] at found ⊢
    constructor
    · -- The table already held the context, so it also held the new value.
      intro same
      have context := congrArg (fun table => Dict.get? table (stateKey state)) same
      simp only [Dict.get?_set_self] at context
      generalize written : (ensureState policy.qTable (stateKey state)).2.set (actionKey action)
        (value + policy.alpha * (reward - value)) = values at context
      have ensured : ensureState policy.qTable (stateKey state) = (policy.qTable, values) := by
        simp only [ensureState, ← context]
      rw [ensured] at found written
      have present := congrArg (fun values => Dict.get? values (actionKey action)) written
      simp only [Dict.get?_set_self] at present
      exact ⟨values, value, context.symm, found, Option.some.inj (present.trans found)⟩
    · rintro ⟨values, settled, context, present, fixed⟩
      have ensured : ensureState policy.qTable (stateKey state) = (policy.qTable, values) := by
        simp only [ensureState, context]
      rw [ensured] at found ⊢
      obtain rfl : settled = value := Option.some.inj (present.symm.trans found)
      rw [fixed]
      simp only [Dict.set_of_get? present, Dict.set_of_get? context]

/-! ### The file after a failure -/

omit [Add F] [Sub F] [Mul F] in
/-- The constructor, with the parameters of a policy, reads the file and does nothing else. -/
theorem init_again (policy : ContextualBanditPolicy F) (room : Nat) (file : QFile) :
    init room policy.epsilon policy.alpha file =
      (loadQTable room file).map fun qTable => { policy with qTable } := by
  -- The parameters have been accepted before.
  rw [init, dif_pos policy.epsilonInRange, dif_pos policy.alphaInRange]
  cases (loadQTable room file : Except PyError (QTable F)) <;> rfl

omit [Add F] [Sub F] [Mul F] in
/-- A file that holds part of a table's text can be loaded only when nothing is missing. -/
theorem init_partial_iff (room : Nat) (policy : ContextualBanditPolicy F) (stored learned : QTable F)
    (missing : Nat) :
    (∃ reloaded, init (room + 2) policy.epsilon policy.alpha
        (some (partialText learned missing)) = .ok reloaded ∧
          (reloaded.qTable = stored ∨ reloaded.qTable = learned)) ↔ missing = 0 := by
  -- The whole text gives the new table back, and a part of it gives nothing back.
  constructor
  · rintro ⟨reloaded, returned, _⟩
    by_contra lost
    obtain ⟨error, failed⟩ := loadQTable_partial room learned lost
    rw [init_again, failed] at returned
    cases returned
  · rintro rfl
    have whole := init_again policy (room + 2) (some (tableText learned))
    rw [loadQTable_saved] at whole
    rw [partialText_zero]
    exact ⟨_, whole, .inr rfl⟩

/-- A call is all or nothing exactly when the failure of its save does no harm. -/
theorem update_allOrNothing_iff (room : Nat) (policy : ContextualBanditPolicy F) (file : QFile)
    (stored : QTable F) (loaded : loadQTable (room + 2) file = .ok stored) (state : State)
    (action : ℚ) (reward : F) (fault : SaveFault) :
    AllOrNothing (room + 2) policy file stored state action reward fault ↔
      Harmless policy state action reward fault := by
  have reload := init_again policy (room + 2) file
  rw [loaded] at reload
  cases applied : (lessonOf policy state action reward).apply policy.qTable with
  | none =>
    -- Nothing was changed anywhere.
    have refused := apply_eq_none_iff.mp applied
    obtain ⟨error, updated⟩ := update_of_refused applied file fault
    have harmless : Harmless policy state action reward fault := by
      cases fault <;> simp [Harmless, refused]
    rw [AllOrNothing, updated]
    exact iff_of_true ⟨⟨_, reload, .inl rfl⟩, fun _ => rfl⟩ harmless
  | some learned =>
    have accepted : ¬ Refused policy state action := fun refused => by
      rw [apply_eq_none_iff.mpr refused] at applied
      cases applied
    have unmoved := apply_eq_self_iff applied
    have completed : (policy.update file state action reward .noFault).policy.qTable = learned := by
      rw [update_of_apply applied]
    have whole := init_again policy (room + 2) (some (tableText learned))
    rw [loadQTable_saved] at whole
    have readable := init_partial_iff room policy stored learned
    rw [AllOrNothing, completed, update_of_apply applied]
    cases fault with
    | noFault => simp [saveQTable, Harmless, whole, Except.map]
    | openFails => simp [saveQTable, Harmless, reload, accepted, unmoved, Except.map]
    | writeFails missing => simp [saveQTable, Harmless, readable, accepted, unmoved]
    | closeFails missing => simp [saveQTable, Harmless, readable, accepted, unmoved]
    | killedBeforeOpen => simp [saveQTable, Harmless, reload, Except.map]
    | killedWriting missing => simp [saveQTable, Harmless, readable, accepted]

/-! ### A table that is lost -/

/-- A table with one learned value, as a policy and its file hold it. -/
def learnedTable : QTable Int :=
  -- Every action has its entry.
  .ofList [("analyst|9", .ofList [("0.3", 1), ("0.4", 0), ("0.5", 0), ("0.6", 0), ("0.7", 0),
    ("0.8", 0)])]

/-- A policy that holds this table and moves values all the way to the reward. -/
def eagerPolicy : ContextualBanditPolicy Int :=
  -- It never explores and moves all the way.
  ⟨0, 1, learnedTable, by decide, by decide⟩

/-- The save of an update with a new reward is harmless when it does not fail. -/
theorem update_allOrNothing_whole :
    AllOrNothing 2 eagerPolicy (some (tableText learnedTable)) learnedTable ⟨"analyst", 9⟩ (3 / 10) 2
        .noFault ↔
      Harmless eagerPolicy ⟨"analyst", 9⟩ (3 / 10) 2 .noFault :=
  -- Without a fault nothing is lost.
  update_allOrNothing_iff 0 eagerPolicy (some (tableText learnedTable)) learnedTable
    (loadQTable_saved 0 learnedTable) ⟨"analyst", 9⟩ (3 / 10) 2 .noFault

/-- A process that is killed as soon as opening has emptied the file leaves a file that no policy
can be constructed from. -/
theorem update_emptiedFile :
    loadQTable 2 (some (tableText learnedTable)) = .ok learnedTable ∧
      (eagerPolicy.update (some (tableText learnedTable)) ⟨"analyst", 9⟩ (3 / 10) 2
        (.killedWriting 1000)).file = some [] ∧
      (∃ error, init 2 eagerPolicy.epsilon eagerPolicy.alpha (some []) = .error error) ∧
      ¬ AllOrNothing 2 eagerPolicy (some (tableText learnedTable)) learnedTable ⟨"analyst", 9⟩
        (3 / 10) 2 (.killedWriting 1000) := by
  -- The empty text is no document.
  have emptied : (eagerPolicy.update (some (tableText learnedTable)) ⟨"analyst", 9⟩ (3 / 10) 2
      (.killedWriting 1000)).file = some [] := by decide +kernel
  have refused : init 2 eagerPolicy.epsilon eagerPolicy.alpha (some []) = .error .jsonDecodeError :=
    init_again eagerPolicy 2 (some [])
  refine ⟨loadQTable_saved 0 learnedTable, emptied, ⟨_, refused⟩, ?_⟩
  rintro ⟨⟨reloaded, returned, _⟩, _⟩
  rw [emptied, refused] at returned
  cases returned

end Absm
