import Mathlib.Data.List.Basic
import Mathlib.Logic.Function.Basic
import Absm.Foundation.Runs

/-! A cell that clients copy and overwrite with their changed copies, and which changes survive. -/

namespace Absm

variable {ι σ μ : Type} [DecidableEq ι]

/-- A cell and the copies that clients hold. -/
structure SharedCell (ι σ : Type) where
  /-- The content of the cell. -/
  cell : σ
  /-- The copy of every client that has loaded one. -/
  held : ι → Option σ

/-- What a client does. -/
inductive CellAction (ι μ : Type) where
  /-- It copies the cell. -/
  | load (client : ι)
  /-- It changes its copy and overwrites the cell with it. -/
  | store (client : ι) (change : μ)

namespace SharedCell

/-- The cell and the copies after an action; nothing happens when there is no copy to change, or
when the change is refused. -/
def step (apply : σ → μ → Option σ) (shared : SharedCell ι σ) :
    CellAction ι μ → Option (SharedCell ι σ)
  -- A client without a copy cannot store, and a store replaces the whole cell.
  | .load client => some { shared with held := Function.update shared.held client (some shared.cell) }
  | .store client change => do
    let copy ← shared.held client
    let changed ← apply copy change
    return ⟨changed, Function.update shared.held client (some changed)⟩

/-! ### Surviving changes -/

/-- The changes in the copy of a client, or in the cell if no client is named, after the given
actions, of which the latest comes first. -/
def survivors : Option ι → List (CellAction ι μ) → List μ
  | _, [] => []
  | none, .load _ :: past => survivors none past
  -- The cell is what the client that stored last had in its copy.
  | none, .store client change :: past => survivors (some client) past ++ [change]
  -- A load forgets what was in the copy before.
  | some reader, .load client :: past =>
    if client = reader then survivors none past else survivors (some reader) past
  | some reader, .store client change :: past =>
    if client = reader then survivors (some reader) past ++ [change]
    else survivors (some reader) past

/-- All changes, the oldest first, given the actions with the latest first. -/
def changes : List (CellAction ι μ) → List μ
  -- Loading changes nothing.
  | [] => []
  | .load _ :: past => changes past
  | .store _ change :: past => changes past ++ [change]

/-- Whether a client has loaded or stored since another client last stored. -/
def UpToDate (client : ι) : List (CellAction ι μ) → Prop
  -- The client's own actions count, and those of others must have come before its load.
  | [] => True
  | .load other :: past => other = client ∨ UpToDate client past
  | .store other _ :: _ => other = client

/-- Whether every change was stored by a client that was up to date. -/
def Serialized : List (CellAction ι μ) → Prop
  -- Only stores can lose what others have stored.
  | [] => True
  | .load _ :: past => Serialized past
  | .store client _ :: past => UpToDate client past ∧ Serialized past

/-- Cell and copies are the initial content with the surviving changes applied in order. -/
theorem replay {apply : σ → μ → Option σ} {initial : σ} {final : SharedCell ι σ}
    (past : List (CellAction ι μ))
    (run : runAll (step apply) ⟨initial, fun _ => none⟩ past.reverse = some final) :
    (survivors none past).foldlM apply initial = some final.cell ∧
      ∀ client copy, final.held client = some copy →
        (survivors (some client) past).foldlM apply initial = some copy := by
  -- The induction adds one action at the end of the run, which is the head of the past.
  induction past generalizing final with
  | nil =>
    cases run
    exact ⟨rfl, fun client copy held => by cases held⟩
  | cons action past ih =>
    rw [List.reverse_cons, runAll_append] at run
    obtain ⟨middle, before, last⟩ := Option.bind_eq_some_iff.mp run
    obtain ⟨cell, copies⟩ := ih before
    rw [runAll_cons] at last
    obtain ⟨next, taken, stopped⟩ := Option.bind_eq_some_iff.mp last
    cases stopped
    cases action with
    | load client =>
      cases taken
      refine ⟨cell, fun reader copy held => ?_⟩
      by_cases same : client = reader
      · subst same
        simp only [Function.update_self, Option.some.injEq] at held
        simpa only [survivors, if_true, ← held] using cell
      · simp only [Function.update_of_ne (Ne.symm same)] at held
        simpa only [survivors, if_neg same] using copies reader copy held
    | store client change =>
      simp only [step, Option.bind_eq_bind, Option.bind_eq_some_iff] at taken
      obtain ⟨copy, loaded, changed, applied, stored⟩ := taken
      cases stored
      have own : (survivors (some client) past ++ [change]).foldlM apply initial = some changed := by
        rw [List.foldlM_append, copies client copy loaded]
        simpa using applied
      refine ⟨own, fun reader other held => ?_⟩
      by_cases same : client = reader
      · subst same
        simp only [Function.update_self, Option.some.injEq] at held
        simpa only [survivors, if_true, ← held] using own
      · simp only [Function.update_of_ne (Ne.symm same)] at held
        simpa only [survivors, if_neg same] using copies reader other held

/-- A client that is up to date has in its copy what is in the cell. -/
theorem survivors_upToDate {client : ι} {past : List (CellAction ι μ)}
    (current : UpToDate client past) : survivors (some client) past = survivors none past := by
  -- Going back, its own store or load is met before any store of another client.
  induction past with
  | nil => rfl
  | cons action past ih =>
    cases action with
    | load other =>
      by_cases same : other = client
      · simp [survivors, same]
      · simpa [survivors, same] using ih (current.resolve_left same)
    | store other change =>
      obtain rfl : other = client := current
      simp [survivors]

/-- At most all changes survive. -/
theorem survivors_length (reader : Option ι) (past : List (CellAction ι μ)) :
    (survivors reader past).length ≤ (changes past).length := by
  -- A store adds one change to all changes, and at most one to the surviving ones.
  induction past generalizing reader with
  | nil => cases reader <;> simp [survivors]
  | cons action past ih =>
    cases reader with
    | none =>
      cases action with
      | load client => exact ih none
      | store client change => simpa [survivors, changes] using ih (some client)
    | some reader =>
      cases action with
      | load client =>
        by_cases same : client = reader
        · simpa [survivors, same, changes] using ih none
        · simpa [survivors, same, changes] using ih (some reader)
      | store client change =>
        have rest := ih (some reader)
        by_cases same : client = reader
        · simpa [survivors, same, changes] using rest
        · simp only [survivors, if_neg same, changes, List.length_append, List.length_singleton]
          omega

/-- The surviving changes are among all changes, in their order. -/
theorem survivors_sublist (reader : Option ι) (past : List (CellAction ι μ)) :
    (survivors reader past).Sublist (changes past) := by
  -- A store adds its change at the end of all changes, and at the end of the surviving ones or not.
  induction past generalizing reader with
  | nil => cases reader <;> exact List.Sublist.refl []
  | cons action past ih =>
    cases reader with
    | none =>
      cases action with
      | load client => exact ih none
      | store client change => exact (ih (some client)).append_right [change]
    | some reader =>
      cases action with
      | load client =>
        by_cases same : client = reader
        · simpa only [survivors, if_pos same, changes] using ih none
        · simpa only [survivors, if_neg same, changes] using ih (some reader)
      | store client change =>
        by_cases same : client = reader
        · simpa only [survivors, if_pos same, changes] using (ih (some reader)).append_right [change]
        · simpa only [survivors, if_neg same, changes] using
            (ih (some reader)).trans (List.sublist_append_left _ _)

omit [DecidableEq ι] in
/-- A change is among all changes exactly when a client has stored it. -/
theorem mem_changes {change : μ} {past : List (CellAction ι μ)} :
    change ∈ changes past ↔ ∃ client, CellAction.store client change ∈ past := by
  -- Each store adds its change.
  induction past with
  | nil => simp [changes]
  | cons action past ih =>
    cases action with
    | load client => simp [changes, ih]
    | store client other =>
      simp only [changes, List.mem_append, ih, List.mem_cons, List.not_mem_nil, or_false,
        CellAction.store.injEq]
      exact ⟨fun found => found.elim (fun ⟨earlier, stored⟩ => ⟨earlier, .inr stored⟩)
          fun same => ⟨client, .inl ⟨rfl, same⟩⟩,
        fun ⟨storer, found⟩ => found.elim (fun same => .inr same.2) fun stored => .inl ⟨storer, stored⟩⟩

/-- A copy that has every change is up to date. -/
theorem upToDate_of_survivors {client : ι} {past : List (CellAction ι μ)}
    (complete : (survivors (some client) past).length = (changes past).length) :
    UpToDate client past := by
  -- A change that another client stored since the last load is missing in the copy.
  induction past with
  | nil => trivial
  | cons action past ih =>
    cases action with
    | load other =>
      by_cases same : other = client
      · exact .inl same
      · exact .inr (ih (by simpa [survivors, same, changes] using complete))
    | store other change =>
      by_contra differs
      have atMost := survivors_length (some client) past
      simp only [survivors, if_neg (show ¬ other = client from differs), changes,
        List.length_append, List.length_singleton] at complete
      omega

/-- All changes survive exactly when each was stored by a client that was up to date. -/
theorem survivors_eq_changes_iff {past : List (CellAction ι μ)} :
    survivors none past = changes past ↔ Serialized past := by
  -- Each store is looked at with the actions that had gone before it.
  induction past with
  | nil => exact iff_of_true rfl trivial
  | cons action past ih =>
    cases action with
    | load client => exact ih
    | store client change =>
      simp only [survivors, changes, Serialized, List.append_cancel_right_eq]
      constructor
      · intro complete
        have current := upToDate_of_survivors (congrArg List.length complete)
        exact ⟨current, ih.mp ((survivors_upToDate current).symm.trans complete)⟩
      · rintro ⟨current, serialized⟩
        exact (survivors_upToDate current).trans (ih.mpr serialized)

end SharedCell
end Absm
