import Mathlib.Control.Basic
import Mathlib.Data.List.Basic

/-! Computations that return or raise: what sequences and lists of them return. -/

namespace Absm

variable {ε α β : Type}

/-! ### One after another -/

/-- A computation returns exactly when its first part does and the rest does with the result. -/
theorem bind_eq_ok {first : Except ε α} {rest : α → Except ε β} {result : β} :
    (first >>= rest) = .ok result ↔ ∃ middle, first = .ok middle ∧ rest middle = .ok result := by
  -- An error is passed on, so a result can only come out of a result.
  cases first with
  | error error => simp [Bind.bind, Except.bind]
  | ok middle => simp [Bind.bind, Except.bind]

/-- A computation that has returned goes on with its result. -/
@[simp] theorem ok_bind (value : α) (rest : α → Except ε β) :
    ((.ok value : Except ε α) >>= rest) = rest value := rfl

/-- A computation that has raised does not go on. -/
@[simp] theorem error_bind (error : ε) (rest : α → Except ε β) :
    ((.error error : Except ε α) >>= rest) = .error error := rfl

/-- Returning a value. -/
@[simp] theorem pure_eq_ok (value : α) : (pure value : Except ε α) = .ok value := rfl

/-- What is made of a result is returned exactly when the result is. -/
theorem map_eq_ok {first : Except ε α} {f : α → β} {result : β} :
    first.map f = .ok result ↔ ∃ middle, first = .ok middle ∧ f middle = result := by
  -- An error is passed on.
  cases first with
  | error error => simp [Except.map]
  | ok middle => simp [Except.map]

/-- What a computation returns is its value. -/
@[simp] theorem toOption_eq_some {computed : Except ε α} {result : α} :
    computed.toOption = some result ↔ computed = .ok result := by
  -- An error has no value.
  cases computed with
  | error error => simp [Except.toOption]
  | ok value => simp [Except.toOption]

/-- What a computation returns, when it returns one value under a condition only. -/
theorem toOption_eq_ite {computed : Except ε α} {condition : Prop} [Decidable condition] {value : α}
    (returns : ∀ result, computed = .ok result ↔ condition ∧ result = value) :
    computed.toOption = if condition then some value else none := by
  -- Under the condition the value is the result, and otherwise a result would need the condition.
  split
  case isTrue holds =>
    rw [(returns value).mpr ⟨holds, rfl⟩]
    rfl
  case isFalse fails =>
    cases computed with
    | error error => rfl
    | ok result => exact absurd ((returns result).mp rfl).1 fails

/-! ### Lists -/

/-- A list of computations returns when the first one does and the others do. -/
theorem mapM_cons_eq_ok {f : α → Except ε β} {item : α} {items : List α} {results : List β} :
    (item :: items).mapM f = .ok results ↔ ∃ first others, f item = .ok first ∧
      items.mapM f = .ok others ∧ results = first :: others := by
  -- The first result is put in front of the others.
  rw [List.mapM_cons, bind_eq_ok]
  simp only [bind_eq_ok, pure_eq_ok, Except.ok.injEq]
  constructor
  · intro returned
    obtain ⟨first, found, others, rest, whole⟩ := returned
    exact ⟨first, others, found, rest, whole.symm⟩
  · intro returned
    obtain ⟨first, others, found, rest, whole⟩ := returned
    exact ⟨first, found, others, rest, whole.symm⟩

/-- As many results come out of a list of computations as there are. -/
theorem length_of_mapM {f : α → Except ε β} {items : List α} {results : List β}
    (returned : items.mapM f = .ok results) : results.length = items.length := by
  -- One result is put in front for each computation.
  induction items generalizing results with
  | nil =>
    cases returned
    rfl
  | cons item items ih =>
    obtain ⟨first, others, _, rest, rfl⟩ := mapM_cons_eq_ok.mp returned
    simp [ih rest]

/-- A list of computations returns exactly when each of them does. -/
theorem mapM_ok_iff (f : α → Except ε β) (items : List α) :
    (∃ results, items.mapM f = .ok results) ↔ ∀ item ∈ items, ∃ result, f item = .ok result := by
  -- The results of the tail are found after the one of the head.
  induction items with
  | nil => simp
  | cons item items ih =>
    simp only [mapM_cons_eq_ok, List.forall_mem_cons, ← ih]
    constructor
    · intro returned
      obtain ⟨_, result, results, first, rest, _⟩ := returned
      exact ⟨⟨result, first⟩, results, rest⟩
    · intro each
      obtain ⟨⟨result, first⟩, results, rest⟩ := each
      exact ⟨_, result, results, first, rest, rfl⟩

/-- Each result of a list of computations is that of the item at its place. -/
theorem of_mem_zip_mapM {f : α → Except ε β} {items : List α} {results : List β}
    (returned : items.mapM f = .ok results) {pair : β × α} (member : pair ∈ results.zip items) :
    f pair.2 = .ok pair.1 := by
  -- The first result comes from the first item, and the others from the other items.
  induction items generalizing results with
  | nil => simp at member
  | cons item items ih =>
    obtain ⟨first, others, found, rest, rfl⟩ := mapM_cons_eq_ok.mp returned
    rcases List.mem_cons.mp member with rfl | later
    · exact found
    · exact ih rest later

/-- What is made of each result of a list of computations is made of the results. -/
theorem mapM_map_of_mapM {γ : Type} {f : α → Except ε β} {items : List α} {results : List β}
    (returned : items.mapM f = .ok results) (use : β → γ) :
    items.mapM (fun item => (f item).map use) = .ok (results.map use) := by
  -- The first result is put to use, and so are the others.
  induction items generalizing results with
  | nil =>
    cases returned
    rfl
  | cons item items ih =>
    obtain ⟨first, others, found, rest, rfl⟩ := mapM_cons_eq_ok.mp returned
    exact mapM_cons_eq_ok.mpr ⟨use first, others.map use, by rw [found]; rfl, ih rest, rfl⟩

/-- The computations on the first items of a list return the first results. -/
theorem mapM_take {f : α → Except ε β} {items : List α} {results : List β}
    (returned : items.mapM f = .ok results) (count : Nat) :
    (items.take count).mapM f = .ok (results.take count) := by
  -- Leaving the later items out leaves their results out.
  induction items generalizing results count with
  | nil =>
    cases returned
    simp
  | cons item items ih =>
    obtain ⟨first, others, found, rest, rfl⟩ := mapM_cons_eq_ok.mp returned
    cases count with
    | zero => rfl
    | succ count => simp [List.mapM_cons, found, ih rest count]

/-- A list of computations that return returns the list of what they return. -/
theorem mapM_eq_map {f : α → Except ε β} {g : α → β} {items : List α}
    (each : ∀ item ∈ items, f item = .ok (g item)) : items.mapM f = .ok (items.map g) := by
  -- Each item is computed before the ones behind it.
  induction items with
  | nil => rfl
  | cons item items ih =>
    exact mapM_cons_eq_ok.mpr ⟨g item, items.map g, each item (List.mem_cons_self ..),
      ih fun other member => each other (List.mem_cons_of_mem _ member), rfl⟩

/-- A computation that gives back each of some items gives back all of them. -/
theorem mapM_map_of_pure {m : Type → Type} [Monad m] [LawfulMonad m] (f : α → m β) (g : β → α)
    {items : List β} (each : ∀ item ∈ items, f (g item) = pure item) :
    (items.map g).mapM f = pure items := by
  -- Each item comes back, and then the rest does.
  induction items with
  | nil => simp
  | cons item items ih =>
    rw [List.map_cons, List.mapM_cons, each item (List.mem_cons_self ..),
      ih fun other member => each other (List.mem_cons_of_mem _ member), pure_bind, pure_bind]

/-! ### Errors that are not raised -/

/-- A computation raises none of certain errors. -/
def Avoids (bad : ε → Prop) (computed : Except ε α) : Prop :=
  ∀ error, computed = .error error → ¬ bad error

variable {bad : ε → Prop}

/-- A computation that returns raises nothing. -/
theorem avoids_ok (value : α) : Avoids bad (.ok value : Except ε α) := by
  -- A value is no error.
  intro error raised
  cases raised

/-- What is raised is none of certain errors exactly when it is not one of them. -/
theorem avoids_error {error : ε} : Avoids bad (.error error : Except ε α) ↔ ¬ bad error := by
  -- There is one error to avoid.
  simp [Avoids]

/-- A computation avoids errors when its first part does and the rest does with the result. -/
theorem Avoids.bind {first : Except ε α} {rest : α → Except ε β} (avoids : Avoids bad first)
    (others : ∀ middle, first = .ok middle → Avoids bad (rest middle)) :
    Avoids bad (first >>= rest) := by
  -- An error comes out of the first part, or out of the rest.
  cases first with
  | error error => exact avoids_error.mpr (avoids error rfl)
  | ok middle => exact others middle rfl

/-- A list of computations avoids errors when each of them does. -/
theorem Avoids.mapM {f : α → Except ε β} {items : List α} (each : ∀ item, Avoids bad (f item)) :
    Avoids bad (items.mapM f) := by
  -- The first computation avoids them, and then the others do.
  induction items with
  | nil => exact avoids_ok []
  | cons item items ih =>
    rw [List.mapM_cons]
    exact (each item).bind fun _ _ => ih.bind fun _ _ => avoids_ok _

end Absm
