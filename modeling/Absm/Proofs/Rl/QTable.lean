import Mathlib.Algebra.Order.Field.Rat
import Std.Data.String.ToInt
import Absm.Proofs.Foundation.JsonCut
import Absm.Rl.ThresholdPolicy

/-! What the table holds, how one update moves it, and what its file gives back. -/

namespace Absm

variable {F : Type}

/-! ### Keys -/

/-- Different actions have different keys. -/
theorem actionKey_inj {first second : ℚ} (firstValid : first ∈ thresholdActions)
    (secondValid : second ∈ thresholdActions) (same : actionKey first = actionKey second) :
    first = second := by
  -- Six keys are compared with each other.
  have distinct : ∀ a ∈ thresholdActions, ∀ b ∈ thresholdActions,
      actionKey a = actionKey b → a = b := by decide +kernel
  exact distinct first firstValid second secondValid same

/-- The keys of the actions are distinct. -/
theorem actionKey_nodup : (thresholdActions.map actionKey).Nodup := by
  -- Six texts.
  decide +kernel

/-- No integer is written with the separator. -/
theorem separator_not_mem (value : Int) : '|' ∉ (toString value).toList := by
  -- A minus may stand before the digits, and nothing else.
  have digits (size : Nat) : '|' ∉ (Nat.repr size).toList := by
    rw [Nat.toList_repr]
    intro member
    exact absurd (Nat.isDigit_of_mem_toDigits (by decide) (by decide) member) (by decide)
  cases value with
  | ofNat size => exact digits size
  | negSucc size =>
    intro member
    have split : (toString (Int.negSucc size)).toList = '-' :: (Nat.repr (size + 1)).toList := by
      simp [toString, Int.repr]
    rw [split, List.mem_cons] at member
    rcases member with same | later
    · exact absurd same (by decide)
    · exact digits (size + 1) later

/-- What stands before and behind the last separator of a text is determined by the text. -/
theorem splitAtLast_inj {separator : Char} {first second before after : List Char}
    (firstClean : separator ∉ before) (secondClean : separator ∉ after)
    (same : first ++ separator :: before = second ++ separator :: after) :
    first = second ∧ before = after := by
  -- A longer first part would put a separator behind the last one.
  rcases List.append_eq_append_iff.mp same with ⟨extra, longer, rest⟩ | ⟨extra, longer, rest⟩
  · cases extra with
    | nil =>
      simp only [List.nil_append, List.cons.injEq, true_and] at rest
      simp only [List.append_nil] at longer
      exact ⟨longer.symm, rest⟩
    | cons head extra =>
      simp only [List.cons_append, List.cons.injEq] at rest
      exact absurd (by simp [rest.2]) firstClean
  · cases extra with
    | nil =>
      simp only [List.nil_append, List.cons.injEq, true_and] at rest
      simp only [List.append_nil] at longer
      exact ⟨longer, rest.symm⟩
    | cons head extra =>
      simp only [List.cons_append, List.cons.injEq] at rest
      exact absurd (by simp [rest.2]) secondClean

/-- Different contexts have different keys, since the hour follows the last separator. -/
theorem stateKey_inj {first second : State} (same : stateKey first = stateKey second) :
    first = second := by
  -- Neither hour contains a separator, so the last one splits both keys.
  have texts : first.userRole.toList ++ '|' :: (toString first.hourBucket).toList =
      second.userRole.toList ++ '|' :: (toString second.hourBucket).toList := by
    simpa [stateKey] using congrArg String.toList same
  obtain ⟨roles, hours⟩ := splitAtLast_inj (separator_not_mem _) (separator_not_mem _) texts
  have sameRole := String.toList_injective roles
  have sameHour := Int.repr_injective (String.toList_injective hours)
  cases first
  cases second
  simp_all

/-! ### Values -/

section Values

variable [Zero F]

/-- The value of an action in a context, which is zero in a context that the table has not seen. -/
def valueUnder (table : QTable F) (key : String) (action : ℚ) : Option F :=
  -- A state that is missing would be added with zeros.
  match table.get? key with
  | some values => values.get? (actionKey action)
  | none => some 0

open ContextualBanditPolicy

/-- The values that a new context starts with. -/
theorem freshValues_get? {action : ℚ} (valid : action ∈ thresholdActions) :
    (Dict.ofList (thresholdActions.map fun action => (actionKey action, (0 : F)))).get?
      (actionKey action) = some 0 := by
  -- The keys are distinct, so every entry is the one that is read.
  have keys : ((thresholdActions.map fun action => (actionKey action, (0 : F))).map Prod.fst).Nodup := by
    rw [List.map_map]
    exact actionKey_nodup
  rw [← Dict.mem_entries_iff, Dict.ofList_entries keys]
  exact List.mem_map.mpr ⟨action, valid, rfl⟩

/-- A context that has been ensured is in the table. -/
theorem ensureState_get? (table : QTable F) (key : String) :
    (ensureState table key).1.get? key = some (ensureState table key).2 := by
  -- The values are there already, or they have just been put there.
  unfold ensureState
  split
  · assumption
  · exact Dict.get?_set_self ..

/-- Reading an action of an ensured context. -/
theorem ensureState_value (table : QTable F) (key : String) {action : ℚ}
    (valid : action ∈ thresholdActions) :
    (ensureState table key).2.get? (actionKey action) = valueUnder table key action := by
  -- A new context has the value zero for every threshold.
  cases found : table.get? key with
  | some values => simp [ensureState, valueUnder, found]
  | none => simpa [ensureState, valueUnder, found] using freshValues_get? valid

/-- Ensuring a context changes no value. -/
theorem valueUnder_ensureState (table : QTable F) (key other : String) {action : ℚ}
    (valid : action ∈ thresholdActions) :
    valueUnder (ensureState table key).1 other action = valueUnder table other action := by
  -- A context that is added has zeros, which is what it read as before.
  by_cases same : other = key
  · subst same
    rw [← ensureState_value table other valid, valueUnder, ensureState_get?]
  · unfold ensureState
    split
    · rfl
    · simp only [valueUnder, Dict.get?_set_of_ne _ same]

end Values

/-! ### One update -/

/-- What one update asks the table to learn. -/
structure Lesson (F : Type) where
  /-- The context. -/
  state : State
  /-- The action that was taken. -/
  action : ℚ
  /-- The reward that it earned. -/
  reward : F
  /-- How far the value moves. -/
  alpha : F

section Learning

variable [Zero F] [Add F] [Sub F] [Mul F]

open ContextualBanditPolicy

/-- A value after a lesson about it. -/
def Lesson.move (lesson : Lesson F) (value : F) : F :=
  -- The step of the exponential average.
  value + lesson.alpha * (lesson.reward - value)

/-- The table after a lesson, unless the action is none of the thresholds or has no value. -/
def Lesson.apply (table : QTable F) (lesson : Lesson F) : Option (QTable F) :=
  -- Invalid actions are refused, and missing ones are a `KeyError`.
  if lesson.action ∈ thresholdActions then
    let ensured := ensureState table (stateKey lesson.state)
    (ensured.2.get? (actionKey lesson.action)).map fun value =>
      ensured.1.set (stateKey lesson.state)
        (ensured.2.set (actionKey lesson.action) (lesson.move value))
  else none

/-- A lesson moves the value it is about and no other one. -/
theorem valueUnder_apply {table learned : QTable F} {lesson : Lesson F}
    (applied : lesson.apply table = some learned) (key : String) {action : ℚ}
    (valid : action ∈ thresholdActions) :
    valueUnder learned key action =
      if key = stateKey lesson.state ∧ action = lesson.action then
        (valueUnder table key action).map lesson.move
      else valueUnder table key action := by
  -- The lesson writes under one key of the table and one key in that context.
  unfold Lesson.apply at applied
  split at applied
  case isFalse => cases applied
  case isTrue lessonValid =>
    obtain ⟨value, found, rfl⟩ := Option.map_eq_some_iff.mp applied
    by_cases sameKey : key = stateKey lesson.state
    · subst sameKey
      rw [valueUnder, Dict.get?_set_self]
      by_cases sameAction : action = lesson.action
      · subst sameAction
        rw [ensureState_value table _ valid] at found
        simp [found]
      · have keys : actionKey action ≠ actionKey lesson.action := fun same =>
          sameAction (actionKey_inj valid lessonValid same)
        simp [Dict.get?_set_of_ne _ keys, ensureState_value table _ valid, sameAction]
    · simp only [sameKey, false_and, if_false]
      rw [← valueUnder_ensureState table (stateKey lesson.state) key valid]
      simp only [valueUnder, Dict.get?_set_of_ne _ sameKey]

/-- A value that was there is still there after a lesson. -/
theorem valueUnder_apply_exists {table learned : QTable F} {lesson : Lesson F}
    (applied : lesson.apply table = some learned) {key : String} {action : ℚ}
    (valid : action ∈ thresholdActions) (there : ∃ value, valueUnder table key action = some value) :
    ∃ value, valueUnder learned key action = some value := by
  -- It is either moved or left as it was.
  obtain ⟨value, found⟩ := there
  rw [valueUnder_apply applied key valid, found]
  split
  · exact ⟨lesson.move value, rfl⟩
  · exact ⟨value, rfl⟩

/-- A lesson about a threshold can be learned exactly when its value is there. -/
theorem apply_isSome {table : QTable F} {lesson : Lesson F}
    (valid : lesson.action ∈ thresholdActions) :
    (lesson.apply table).isSome =
      (valueUnder table (stateKey lesson.state) lesson.action).isSome := by
  -- The lesson fails exactly when the lookup of the value does.
  simp [Lesson.apply, valid, ensureState_value table _ valid]

end Learning

/-! ### The file -/

section File

variable [FloatRepr F]

omit [FloatRepr F] in
/-- A table is written as mappings two deep. -/
theorem printable_tableJson (room : Nat) (table : QTable F) :
    Printable (room + 2) (tableJson table) := by
  -- Mappings of floats inside a mapping, with the distinct keys of dictionaries.
  refine .object (by simpa [List.map_map, Function.comp_def] using table.distinct) ?_
  intro entry member
  obtain ⟨⟨key, values⟩, _, rfl⟩ := List.mem_map.mp member
  refine .object (by simpa [List.map_map, Function.comp_def] using values.distinct) ?_
  intro entry member
  obtain ⟨⟨action, value⟩, _, rfl⟩ := List.mem_map.mp member
  exact .float value

variable [FloatCast F] [Zero F] [One F]

omit [FloatRepr F] in
/-- A context that was written is read back. -/
theorem parseState_entry (entry : String × Dict String F) :
    parseState (entry.1, .object (entry.2.entries.map fun value => (value.1, .float value.2))) =
      .ok entry := by
  -- Floats are converted to themselves.
  have values : (entry.2.entries.map fun value => (value.1, Json.float value.2)).mapM parseAction =
      .ok entry.2.entries :=
    mapM_map_of_pure _ _ fun _ _ => rfl
  simp [parseState, values]

/-- A table that was written is read back. -/
theorem loadQTable_saved (room : Nat) (table : QTable F) :
    loadQTable (room + 2) (some (tableText table)) = .ok table := by
  -- The text gives the document back, and the document gives the entries back.
  have read := loads_dump (printable_tableJson room table)
  have states := mapM_map_of_pure parseState _ fun entry (_ : entry ∈ table.entries) =>
    parseState_entry entry
  rw [loadQTable, tableText, read]
  simp [tableJson, states]

/-- A table whose text lost its end cannot be read. -/
theorem loadQTable_partial (room : Nat) (table : QTable F) {missing : Nat} (lost : missing ≠ 0) :
    ∃ error, (loadQTable (room + 2) (some (partialText table missing)) :
      Except PyError (QTable F)) = .error error := by
  -- The text is not empty, so something is left off it.
  have nonempty : tableText table ≠ [] := by
    obtain ⟨c, rest, head, _⟩ := (printable_tableJson 0 table).head
    simp [tableText, head]
  have cut : (tableText table).drop ((tableText table).length - missing) ≠ [] := by
    have positive := List.length_pos_iff.mpr nonempty
    rw [Ne, List.drop_eq_nil_iff]
    omega
  obtain ⟨error, failed⟩ := loads_cut (printable_tableJson room table) rfl cut
    (List.take_append_drop ..)
  exact ⟨error.toPyError, by rw [loadQTable, partialText, failed]⟩

omit [FloatCast F] [Zero F] [One F] in
/-- Nothing is lost of a text from whose end no character is missing. -/
@[simp] theorem partialText_zero (table : QTable F) : partialText table 0 = tableText table := by
  -- Nothing is cut off.
  simp [partialText]

end File

/-! ### Updates -/

section Updates

variable [FloatRepr F] [Zero F] [One F] [Add F] [Sub F] [Mul F] [LE F] [LT F]

open ContextualBanditPolicy

/-- What an update of a policy asks its table to learn. -/
def lessonOf (policy : ContextualBanditPolicy F) (state : State) (action : ℚ) (reward : F) :
    Lesson F :=
  -- The step size is the policy's.
  ⟨state, action, reward, policy.alpha⟩

omit [FloatRepr F] in
/-- What an update asks for can be learned if the value is there. -/
theorem lessonOf_applies {policy : ContextualBanditPolicy F} {state : State} {action : ℚ}
    (valid : action ∈ thresholdActions)
    (there : ∃ value, valueUnder policy.qTable (stateKey state) action = some value) (reward : F) :
    ∃ learned, (lessonOf policy state action reward).apply policy.qTable = some learned := by
  -- The value is there, so there is something to move.
  rw [← Option.isSome_iff_exists, apply_isSome valid]
  exact Option.isSome_iff_exists.mpr there

/-- An update that can be learned changes the table in memory and then saves it. -/
theorem update_of_apply {policy : ContextualBanditPolicy F} {state : State} {action : ℚ}
    {reward : F} {learned : QTable F}
    (applied : (lessonOf policy state action reward).apply policy.qTable = some learned)
    (file : QFile) (fault : SaveFault) :
    policy.update file state action reward fault =
      ⟨(saveQTable learned file fault).1, { policy with qTable := learned },
        (saveQTable learned file fault).2⟩ := by
  -- The lesson is what the update computes before it saves.
  unfold Lesson.apply at applied
  split at applied
  case isFalse => cases applied
  case isTrue valid =>
    obtain ⟨value, found, rfl⟩ := Option.map_eq_some_iff.mp applied
    simp only [lessonOf] at valid found
    simp [update, valid, valueAt, found, lessonOf, Lesson.move]

/-- An update that cannot be learned raises and leaves memory and file alone. -/
theorem update_of_refused {policy : ContextualBanditPolicy F} {state : State} {action : ℚ}
    {reward : F} (refused : (lessonOf policy state action reward).apply policy.qTable = none)
    (file : QFile) (fault : SaveFault) :
    ∃ error, policy.update file state action reward fault = ⟨.raised error, policy, file⟩ := by
  by_cases valid : action ∈ thresholdActions
  · -- Only a context that was there before can lack a value.
    simp only [Lesson.apply, lessonOf, valid, if_true, Option.map_eq_none_iff] at refused
    cases found : policy.qTable.get? (stateKey state) with
    | none =>
      rw [ensureState_value _ _ valid, valueUnder, found] at refused
      cases refused
    | some values =>
      simp only [ensureState, found] at refused
      exact ⟨.keyError (actionKey action), by simp [update, valid, ensureState, found, valueAt, refused]⟩
  · exact ⟨_, by rw [update, if_neg valid]⟩

end Updates
end Absm
