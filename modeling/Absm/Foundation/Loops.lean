import Mathlib.Data.Nat.Init
import Mathlib.Order.Bounds.Defs
import Mathlib.Order.Nat

/-! Loops with and without a bound of their own: how they end, and why they do. -/

namespace Absm

variable {σ : Type}

/-- A loop goes on until it is done: it ends in a state after some rounds. -/
inductive LoopEnds (round : σ → σ) (done : σ → Bool) : Nat → σ → σ → Prop where
  /-- The loop is done. -/
  | done {state : σ} (finished : done state = true) : LoopEnds round done 0 state state
  /-- The loop takes another round. -/
  | next {count : Nat} {state final : σ} (unfinished : done state = false)
      (rest : LoopEnds round done count (round state) final) :
      LoopEnds round done (count + 1) state final

variable {round : σ → σ} {done : σ → Bool}

/-- A loop ends in one way at most. -/
theorem LoopEnds.unique {count other : Nat} {state final last : σ}
    (first : LoopEnds round done count state final) (second : LoopEnds round done other state last) :
    count = other ∧ final = last := by
  -- Whether the loop is done decides for both ends at each state.
  induction first generalizing other with
  | done finished =>
    cases second with
    | done => exact ⟨rfl, rfl⟩
    | next unfinished => simp [finished] at unfinished
  | next unfinished rest ih =>
    cases second with
    | done finished => simp [unfinished] at finished
    | next _ rest' =>
      obtain ⟨counts, same⟩ := ih rest'
      exact ⟨congrArg (· + 1) counts, same⟩

/-- What every round preserves holds where the loop ends. -/
theorem LoopEnds.invariant (holds : σ → Prop)
    (preserved : ∀ state, done state = false → holds state → holds (round state)) {count : Nat}
    {state final : σ} (ends : LoopEnds round done count state final) (start : holds state) :
    holds final ∧ done final = true := by
  -- The induction is on the rounds that are left.
  induction ends with
  | done finished => exact ⟨start, finished⟩
  | next unfinished _ ih => exact ih (preserved _ unfinished start)

/-- A loop ends within as many rounds as a measure has that every round lowers. -/
theorem ends_of_measure (measure : σ → Nat)
    (lowers : ∀ state, done state = false → measure (round state) < measure state) (state : σ) :
    ∃ count final, LoopEnds round done count state final ∧ count ≤ measure state := by
  -- The induction is on the measure, which the rest of the loop has less of.
  induction bound : measure state using Nat.strongRecOn generalizing state with
  | ind size ih =>
    cases finished : done state with
    | true => exact ⟨0, state, .done finished, Nat.zero_le _⟩
    | false =>
      have lower := lowers state finished
      obtain ⟨count, final, rest, within⟩ := ih (measure (round state)) (bound ▸ lower) _ rfl
      exact ⟨count + 1, final, .next finished rest, by omega⟩

/-! ### Loops over a range -/

/-- Go through a range of numbers; the body says with each new state whether the loop is left. -/
def forRange (body : Nat → σ → σ × Bool) : (remaining number : Nat) → σ → σ
  -- The body says whether the loop is left, and the number counts up.
  | 0, _, state => state
  | remaining + 1, number, state =>
    match body number state with
    | (next, true) => next
    | (next, false) => forRange body remaining (number + 1) next

/-- The state after some rounds, whether or not the loop would have been left before. -/
def afterRounds (body : Nat → σ → σ × Bool) (start : σ) : Nat → σ
  -- Whether the loop would have been left is not asked.
  | 0 => start
  | count + 1 => (body count (afterRounds body start count)).1

/-- The body says after some rounds that the loop is left. -/
def LeftAfter (body : Nat → σ → σ × Bool) (start : σ) (count : Nat) : Prop :=
  -- The last round is the one that leaves the loop.
  ∃ before, count = before + 1 ∧ (body before (afterRounds body start before)).2 = true

private theorem forRange_of_rounds {body : Nat → σ → σ × Bool} {start : σ} (remaining : Nat)
    {number : Nat} (going : ∀ count ≤ number, ¬ LeftAfter body start count) :
    ∃ count, IsLeast {count | LeftAfter body start count ∨ count = number + remaining} count ∧
      forRange body remaining number (afterRounds body start number) = afterRounds body start count := by
  -- A loop that has not been left is left in this round or goes on.
  induction remaining generalizing number with
  | zero =>
    refine ⟨number, ⟨.inr rfl, fun count member => ?_⟩, rfl⟩
    rcases member with left | rfl
    · exact (not_le.mp fun early => going count early left).le
    · exact le_rfl
  | succ remaining ih =>
    rcases taken : body number (afterRounds body start number) with ⟨next, left⟩
    have reached : afterRounds body start (number + 1) = next := congrArg Prod.fst taken
    cases left with
    | true =>
      refine ⟨number + 1, ⟨.inl ⟨number, rfl, congrArg Prod.snd taken⟩, fun count member => ?_⟩, ?_⟩
      · rcases member with left | rfl
        · exact not_le.mp fun early => going count early left
        · omega
      · simp only [forRange, taken, reached]
    | false =>
      have further : ∀ count ≤ number + 1, ¬ LeftAfter body start count := by
        intro count early left
        by_cases last : count = number + 1
        · obtain ⟨before, same, leaves⟩ := left
          obtain rfl : before = number := by omega
          rw [taken] at leaves
          cases leaves
        · exact going count (by omega) left
      obtain ⟨count, least, same⟩ := ih further
      rw [Nat.add_right_comm] at least
      exact ⟨count, least, by simp only [forRange, taken, ← reached, same]⟩

/-- A loop over a range takes the rounds up to the first one after which it is left, or all of them. -/
theorem forRange_eq_afterRounds (body : Nat → σ → σ × Bool) (start : σ) (rounds : Nat) :
    ∃ count, IsLeast {count | LeftAfter body start count ∨ count = rounds} count ∧
      forRange body rounds 0 start = afterRounds body start count := by
  -- No loop is left before its first round.
  have going : ∀ count ≤ 0, ¬ LeftAfter body start count := by
    intro count early left
    obtain ⟨before, same, _⟩ := left
    omega
  simpa [afterRounds] using forRange_of_rounds rounds going

end Absm
