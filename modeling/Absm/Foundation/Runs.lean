import Mathlib.Data.List.Basic

/-! Runs of a machine whose steps may be refused, and the rule that carries invariants along them. -/

namespace Absm

variable {σ α : Type}

/-- Take one step after another, as long as none is refused. -/
def runAll (step : σ → α → Option σ) : σ → List α → Option σ
  -- A run stops at the first action that cannot be taken.
  | state, [] => some state
  | state, action :: actions =>
    match step state action with
    | some next => runAll step next actions
    | none => none

/-- A run starts with its first step. -/
theorem runAll_cons (step : σ → α → Option σ) (state : σ) (action : α) (actions : List α) :
    runAll step state (action :: actions) =
      (step state action).bind fun next => runAll step next actions := by
  -- The run goes on exactly when the first step is possible.
  cases taken : step state action <;> simp [runAll, taken]

/-- Two runs compose when the second starts where the first one ends. -/
theorem runAll_append (step : σ → α → Option σ) (state : σ) (first second : List α) :
    runAll step state (first ++ second) =
      (runAll step state first).bind fun middle => runAll step middle second := by
  -- The second run is reached only after every step of the first.
  induction first generalizing state with
  | nil => rfl
  | cons action first ih =>
    rw [List.cons_append, runAll_cons, runAll_cons]
    cases taken : step state action with
    | none => rfl
    | some next => simp [ih]

/-- A machine that refuses no step takes one after another. -/
theorem runAll_some (step : σ → α → σ) (state : σ) (actions : List α) :
    runAll (fun state action => some (step state action)) state actions =
      some (actions.foldl step state) := by
  -- Each step leads on.
  induction actions generalizing state with
  | nil => rfl
  | cons action actions ih => rw [runAll_cons, Option.bind_some, ih, List.foldl_cons]

/-- Steps that leave a reading alone can be left out as far as this reading is concerned. -/
theorem foldl_filter_reading {β : Type} (step : σ → α → σ) (read : σ → β) (about : α → Bool)
    (congr : ∀ first second action, read first = read second →
      read (step first action) = read (step second action))
    (alone : ∀ state action, about action = false → read (step state action) = read state)
    {first second : σ} (start : read first = read second) (actions : List α) :
    read (actions.foldl step first) = read ((actions.filter about).foldl step second) := by
  -- A step that is left out changes the reading on neither side.
  induction actions generalizing first second with
  | nil => exact start
  | cons action actions ih =>
    cases kept : about action with
    | true =>
      rw [List.filter_cons_of_pos kept, List.foldl_cons, List.foldl_cons]
      exact ih (congr first second action start)
    | false =>
      rw [List.filter_cons_of_neg (by simp [kept]), List.foldl_cons]
      exact ih ((alone first action kept).trans start)

/-- What every step preserves holds at the end of every run. -/
theorem runAll_invariant {step : σ → α → Option σ} (holds : σ → Prop)
    (preserved : ∀ state action next, holds state → step state action = some next → holds next)
    {state final : σ} {actions : List α} (start : holds state)
    (run : runAll step state actions = some final) : holds final := by
  -- The invariant is handed on from each state to the next.
  induction actions generalizing state with
  | nil =>
    cases run
    exact start
  | cons action actions ih =>
    rw [runAll_cons] at run
    obtain ⟨next, taken, rest⟩ := Option.bind_eq_some_iff.mp run
    exact ih (preserved state action next start taken) rest

/-- A machine that can take every step, as long as something holds that every step preserves, can take
every run. -/
theorem runAll_succeeds {step : σ → α → Option σ} (holds : σ → Prop)
    (possible : ∀ state action, holds state →
      ∃ next, step state action = some next ∧ holds next)
    {state : σ} (start : holds state) (actions : List α) :
    ∃ final, runAll step state actions = some final ∧ holds final := by
  -- Each step leads to a state from which the rest of the run is possible.
  induction actions generalizing state with
  | nil => exact ⟨state, rfl, start⟩
  | cons action actions ih =>
    obtain ⟨next, taken, kept⟩ := possible state action start
    obtain ⟨final, run, held⟩ := ih kept
    exact ⟨final, by simp [runAll_cons, taken, run], held⟩

/-- A machine that follows every step of another one follows every run of it. -/
theorem runAll_simulates {τ β : Type} {left : σ → α → Option σ} {right : τ → β → Option τ}
    (translate : α → β) (related : σ → τ → Prop)
    (followed : ∀ first second action first', related first second →
      left first action = some first' →
      ∃ second', right second (translate action) = some second' ∧ related first' second')
    {first first' : σ} {second : τ} (start : related first second) {actions : List α}
    (run : runAll left first actions = some first') :
    ∃ second', runAll right second (actions.map translate) = some second' ∧
      related first' second' := by
  -- Each step is matched by one step, and the states stay related.
  induction actions generalizing first second with
  | nil =>
    cases run
    exact ⟨second, rfl, start⟩
  | cons action actions ih =>
    rw [runAll_cons] at run
    obtain ⟨middle, taken, rest⟩ := Option.bind_eq_some_iff.mp run
    obtain ⟨other, matched, kept⟩ := followed first second action middle start taken
    obtain ⟨second', otherRun, final⟩ := ih kept rest
    exact ⟨second', by simp [runAll_cons, matched, otherRun], final⟩

/-- Steps that the other side need not see can be left out of its run, as long as every other step
is taken on both sides and keeps the states related. -/
theorem runAll_hides {τ : Type} {left : σ → α → Option σ} {right : τ → α → Option τ}
    (hidden : α → Bool) (related : σ → τ → Prop)
    (both : ∀ first second action, related first second → hidden action = false →
      ∃ first' second', left first action = some first' ∧ right second action = some second' ∧
        related first' second')
    (alone : ∀ first second action, related first second → hidden action = true →
      ∃ first', left first action = some first' ∧ related first' second)
    {first : σ} {second : τ} (start : related first second) (actions : List α) :
    ∃ first' second', runAll left first actions = some first' ∧
      runAll right second (actions.filter fun action => !hidden action) = some second' ∧
      related first' second' := by
  -- A hidden step moves only the left side, any other step moves both.
  induction actions generalizing first second with
  | nil => exact ⟨first, second, rfl, rfl, start⟩
  | cons action actions ih =>
    cases seen : hidden action with
    | true =>
      obtain ⟨next, taken, kept⟩ := alone first second action start seen
      obtain ⟨first', second', leftRun, rightRun, final⟩ := ih kept
      exact ⟨first', second', by simp [runAll_cons, taken, leftRun], by simpa [seen] using rightRun,
        final⟩
    | false =>
      obtain ⟨next, other, taken, followed, kept⟩ := both first second action start seen
      obtain ⟨first', second', leftRun, rightRun, final⟩ := ih kept
      exact ⟨first', second', by simp [runAll_cons, taken, leftRun],
        by simp [seen, runAll_cons, followed, rightRun], final⟩

/-! ### Responses -/

variable {β : Type}

/-- Take one step after another, each with a response: the responses, and the state at the end. -/
def respondAll (step : σ → α → β × σ) : σ → List α → List β × σ
  -- Every action is answered, and the state goes on.
  | state, [] => ([], state)
  | state, action :: actions =>
    ((step state action).1 :: (respondAll step (step state action).2 actions).1,
      (respondAll step (step state action).2 actions).2)

/-- Two runs compose when the second starts where the first one ends. -/
theorem respondAll_append (step : σ → α → β × σ) (state : σ) (first second : List α) :
    respondAll step state (first ++ second) =
      ((respondAll step state first).1 ++ (respondAll step (respondAll step state first).2 second).1,
        (respondAll step (respondAll step state first).2 second).2) := by
  -- The second run is reached after every step of the first.
  induction first generalizing state with
  | nil => rfl
  | cons action first ih => rw [List.cons_append, respondAll, ih, respondAll, List.cons_append]

/-- The responses to one more step are followed by the response to it. -/
theorem respondAll_concat (step : σ → α → β × σ) (state : σ) (actions : List α) (action : α) :
    (respondAll step state (actions ++ [action])).1 =
      (respondAll step state actions).1 ++ [(step (respondAll step state actions).2 action).1] := by
  -- The last answer depends on the state in which the others have left it.
  rw [respondAll_append, respondAll, respondAll]

/-- A step that keeps the states related and responds alike on both sides does so in every run. -/
theorem respondAll_simulates {τ γ : Type} {left : σ → α → β × σ} {right : τ → γ → β × τ}
    (translate : α → γ) (related : σ → τ → Prop)
    (followed : ∀ first second action, related first second →
      (left first action).1 = (right second (translate action)).1 ∧
        related (left first action).2 (right second (translate action)).2)
    {first : σ} {second : τ} (start : related first second) (actions : List α) :
    (respondAll left first actions).1 = (respondAll right second (actions.map translate)).1 ∧
      related (respondAll left first actions).2 (respondAll right second (actions.map translate)).2 := by
  -- Each step is matched by one step, and the states stay related.
  induction actions generalizing first second with
  | nil => exact ⟨rfl, start⟩
  | cons action actions ih =>
    obtain ⟨same, kept⟩ := followed first second action start
    obtain ⟨rest, final⟩ := ih kept
    simp only [List.map_cons, respondAll, same, rest]
    exact ⟨trivial, final⟩

/-- What every step keeps up with its action holds of the state that a run ends in. -/
theorem respondAll_tracks {τ : Type} {step : σ → α → β × σ} (track : τ → α → τ)
    (holds : τ → σ → Prop)
    (kept : ∀ tracked state action, holds tracked state →
      holds (track tracked action) (step state action).2)
    {tracked : τ} {state : σ} (start : holds tracked state) (actions : List α) :
    holds (actions.foldl track tracked) (respondAll step state actions).2 := by
  -- What is kept up with is handed on from each state to the next.
  induction actions generalizing tracked state with
  | nil => exact start
  | cons action actions ih => exact ih (kept tracked state action start)

end Absm
