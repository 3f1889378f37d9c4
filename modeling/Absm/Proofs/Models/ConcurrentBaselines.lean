import Absm.Foundation.Shuffle
import Absm.Proofs.Models.BaselineUpdates

/-! Two clients that update one user's baseline at the same time, step by step. -/

namespace Absm

section Steps

variable {F : Type} [Add F] [Sub F] [Mul F] [Neg F] [OfScientific F] [LT F] [LE F] [DecidableLT F]
  [DecidableLE F]

/-- The atomic steps of a client's call. -/
inductive ClientStep where
  /-- The call reads the profile with `get_profile`. -/
  | get (client : Bool)
  /-- The call stores the refreshed profile with `set_profile`. -/
  | set (client : Bool)
  deriving DecidableEq

/-- The store, and the profile that each client's call works on; none before the call has read it
and when the call has raised. -/
structure SharedStore (F : Type) where
  /-- The profiles that the store returns. -/
  store : FeatureStore F
  /-- What the clients have read. -/
  held : Bool → Option (UserProfile F)

/-- What a call reads: it raises before that for a bad weight, and after that without a profile. -/
def UpdateCall.read (call : UpdateCall F) (store : FeatureStore F) : Option (UserProfile F) :=
  -- A call with a bad alpha stops before it reads.
  if call.admitted then store call.userId else none

/-- The store after a call has stored the refreshment of the profile that it had read. -/
def UpdateCall.write (call : UpdateCall F) (held : Option (UserProfile F)) (store : FeatureStore F) :
    FeatureStore F :=
  -- A client that found no profile writes nothing.
  match held with
  | some profile => store.setProfile call.userId (call.refresh profile)
  | none => store

/-- A call that has raised stores nothing. -/
@[simp] theorem write_none (call : UpdateCall F) (store : FeatureStore F) :
    call.write none store = store :=
  -- Nothing was read.
  rfl

/-- One step of one of the clients. -/
def clientStep (call : Bool → UpdateCall F) (shared : SharedStore F) : ClientStep → SharedStore F
  -- What a client holds stays with it until it writes.
  | .get client =>
    { shared with held := Function.update shared.held client ((call client).read shared.store) }
  | .set client =>
    { shared with store := (call client).write (shared.held client) shared.store }

/-- The store after the steps of both clients. -/
def afterSteps (call : Bool → UpdateCall F) (store : FeatureStore F) (steps : List ClientStep) :
    FeatureStore F :=
  -- Nobody holds anything at the start.
  (steps.foldl (clientStep call) ⟨store, fun _ => none⟩).store

/-- The store after a call that runs alone and without faults. -/
def alone (call : UpdateCall F) (store : FeatureStore F) : FeatureStore F :=
  -- No one else touches the store.
  (updateBaseline call .none store).2

/-- The steps of a client's call in their order. -/
def callSteps (client : Bool) : List ClientStep :=
  -- A client reads first.
  [.get client, .set client]

/-- A call that runs alone reads and then writes. -/
theorem alone_eq (call : UpdateCall F) (store : FeatureStore F) :
    alone call store = call.write (call.read store) store := by
  -- The two branches in which the call raises are those in which it has nothing to write.
  rw [alone, updateBaseline]
  by_cases admitted : call.admitted
  · cases found : store call.userId with
    | none => simp [UpdateCall.write, UpdateCall.read, admitted, found, StoreFaults.none]
    | some profile => simp [UpdateCall.write, UpdateCall.read, admitted, found, StoreFaults.none]
  · simp [UpdateCall.write, UpdateCall.read, admitted]

/-- When one call has stored before the other one reads, they have run one after the other. -/
theorem afterSteps_serial (call : Bool → UpdateCall F) (store : FeatureStore F) (first : Bool) :
    afterSteps call store (callSteps first ++ callSteps (!first)) =
      alone (call !first) (alone (call first) store) := by
  -- A client that reads and stores without interruption runs its whole call.
  rw [alone_eq, alone_eq]
  cases first <;> simp [afterSteps, callSteps, clientStep]

/-- Storing twice under one user leaves the second profile. -/
theorem write_write {first second : UpdateCall F} (same : first.userId = second.userId)
    (profile other : UserProfile F) (store : FeatureStore F) :
    second.write (some other) (first.write (some profile) store) =
      second.write (some other) store := by
  -- Both write the same entry, and the later one replaces it.
  simp only [UpdateCall.write, FeatureStore.setProfile, same, Function.update_idem]

/-- When both calls have read before either stores, the one that stores last has run alone. -/
theorem afterSteps_overlapping {call : Bool → UpdateCall F} {store : FeatureStore F}
    (same : (call true).userId = (call false).userId)
    (accepted : ∀ client, ((call client).read store).isSome) (reader last : Bool) :
    afterSteps call store [.get reader, .get (!reader), .set (!last), .set last] =
      alone (call last) store := by
  -- After both reads the two calls hold what the initial store had.
  obtain ⟨profile, mine⟩ := Option.isSome_iff_exists.mp (accepted last)
  obtain ⟨other, theirs⟩ := Option.isSome_iff_exists.mp (accepted !last)
  have users : (call !last).userId = (call last).userId := by cases last <;> simp [same]
  have held : (([.get reader, .get (!reader)].foldl (clientStep call) ⟨store, fun _ => none⟩)) =
      ⟨store, fun client => (call client).read store⟩ := by
    simp only [List.foldl_cons, List.foldl_nil, clientStep, SharedStore.mk.injEq, true_and]
    funext client
    cases reader <;> cases client <;> simp
  have steps : [ClientStep.get reader, .get (!reader), .set (!last), .set last] =
      [.get reader, .get (!reader)] ++ [.set (!last), .set last] := rfl
  rw [alone_eq, mine, afterSteps, steps, List.foldl_append, held]
  simp only [List.foldl_cons, List.foldl_nil, clientStep, mine, theirs]
  exact write_write users other profile store

/-- A call that raises on the initial store raises after the other call, too. -/
theorem read_none_after {call other : UpdateCall F} (same : call.userId = other.userId)
    {store : FeatureStore F} (rejected : call.read store = none) :
    call.read (alone other store) = none := by
  -- Either the weight is refused, or neither call finds a profile.
  by_cases admitted : call.admitted
  · rw [UpdateCall.read, if_pos admitted] at rejected
    have nothing : other.read store = none := by
      rw [UpdateCall.read, ← same, rejected]
      split <;> rfl
    rw [alone_eq, nothing, UpdateCall.write, UpdateCall.read, if_pos admitted, rejected]
  · rw [UpdateCall.read, if_neg admitted]

/-- When one of the calls raises, the other one has run alone. -/
theorem afterSteps_rejected {call : Bool → UpdateCall F} {store : FeatureStore F} {client : Bool}
    (same : (call client).userId = (call !client).userId)
    (rejected : (call client).read store = none) {steps : List ClientStep}
    (interleaved : Shuffle (callSteps client) (callSteps (!client)) steps) :
    afterSteps call store steps = alone (call !client) store := by
  -- Wherever its steps stand, they hold nothing and store nothing.
  have later := read_none_after same rejected
  rw [alone_eq] at later ⊢
  have mine : client ≠ !client := by cases client <;> decide
  have theirs : (!client) ≠ client := mine.symm
  rcases shuffle_pairs interleaved with rfl | rfl | rfl | rfl | rfl | rfl
  all_goals
    simp only [afterSteps, List.foldl_cons, List.foldl_nil, clientStep, Function.update_self,
      Function.update_of_ne mine, Function.update_of_ne theirs, rejected, later, write_none]

/-- When one of the calls raises, both serial orders leave what the other one does alone. -/
theorem alone_rejected {call : Bool → UpdateCall F} {store : FeatureStore F} {client : Bool}
    (same : (call client).userId = (call !client).userId)
    (rejected : (call client).read store = none) (first : Bool) :
    alone (call !first) (alone (call first) store) = alone (call !client) store := by
  -- The order does not matter when one of the two calls does nothing.
  have later := read_none_after same rejected
  by_cases mine : first = client
  · subst mine
    rw [alone_eq (call first), rejected, write_none]
  · obtain rfl : first = !client := by cases first <;> cases client <;> simp_all
    rw [Bool.not_not, alone_eq (call client), later, write_none]

/-- Two calls run one after the other, or both read before either stores. -/
theorem callSteps_shuffle {steps : List ClientStep}
    (interleaved : Shuffle (callSteps true) (callSteps false) steps) :
    (∃ first, steps = callSteps first ++ callSteps (!first)) ∨
      ∃ reader last, steps = [.get reader, .get (!reader), .set (!last), .set last] := by
  -- Two of the six interleavings are serial, and in the other four both calls read first.
  rcases shuffle_pairs interleaved with rfl | rfl | rfl | rfl | rfl | rfl
  · exact .inl ⟨true, rfl⟩
  · exact .inl ⟨false, rfl⟩
  · exact .inr ⟨true, false, rfl⟩
  · exact .inr ⟨true, true, rfl⟩
  · exact .inr ⟨false, false, rfl⟩
  · exact .inr ⟨false, true, rfl⟩

/-- Two calls on one user end as if they had run one after the other, in the order in which one has
stored before the other reads, and in either order when one of them raises; if both have read before
either stores, then the one that stores last has run alone, and the other update is lost. -/
theorem concurrentUpdates (call : Bool → UpdateCall F)
    (same : (call true).userId = (call false).userId) (store : FeatureStore F)
    {steps : List ClientStep} (interleaved : Shuffle (callSteps true) (callSteps false) steps) :
    (∀ first, [.set first, .get (!first)].Sublist steps →
      afterSteps call store steps = alone (call !first) (alone (call first) store)) ∧
    (∀ client, (call client).read store = none → ∀ first,
      afterSteps call store steps = alone (call !first) (alone (call first) store)) ∧
    ((∀ client, ((call client).read store).isSome) →
      (∀ client, [.get (!client), .set client].Sublist steps) → ∀ last, steps.getLast? = some (.set last) →
        afterSteps call store steps = alone (call last) store) := by
  have rejecting : ∀ client, (call client).read store = none → ∀ first,
      afterSteps call store steps = alone (call !first) (alone (call first) store) := by
    intro client rejected first
    cases client
    · rw [afterSteps_rejected same.symm rejected interleaved.symm, alone_rejected same.symm rejected]
    · rw [afterSteps_rejected same rejected interleaved, alone_rejected same rejected]
  rcases callSteps_shuffle interleaved with ⟨earlier, rfl⟩ | ⟨reader, ends, rfl⟩
  · -- The other order and the overlap are ruled out by the steps.
    refine ⟨fun first precedes => ?_, rejecting, fun accepted reads => ?_⟩
    · obtain rfl : first = earlier := by
        revert precedes
        cases first <;> cases earlier <;> decide
      exact afterSteps_serial call store first
    · exact absurd (reads earlier) (by cases earlier <;> decide)
  · -- Here both orders are ruled out, and the step that comes last is that of one of the calls.
    refine ⟨fun first precedes => ?_, rejecting, fun accepted reads last lastStep => ?_⟩
    · exact absurd precedes (by cases first <;> cases reader <;> cases ends <;> decide)
    · obtain rfl : ends = last := by simpa using lastStep
      exact afterSteps_overlapping same accepted reader ends

end Steps

/-! ### Two clients that add different features -/

/-- Two calls on one user, of which each adds a feature of its own. -/
def addingCalls (client : Bool) : UpdateCall ℚ :=
  -- The two clients bring different keys.
  ⟨"u", .ofList [(if client then "a_mean" else "b_mean", 1)], 1 / 2,
    .epoch⟩

/-- Both calls read before either stores. -/
def overlappingSteps : List ClientStep :=
  -- Both read before either writes.
  [.get true, .get false, .set true, .set false]

/-- The overlapping steps are an interleaving of the two calls. -/
theorem overlappingSteps_shuffle : Shuffle (callSteps true) (callSteps false) overlappingSteps :=
  -- One interleaving of the two clients.
  .left (.right (.left (.right .nil)))

/-- Of two features that are added at the same time one is lost, whereas either order of the calls
keeps both. -/
theorem concurrentUpdates_notSerial : ∃ steps, Shuffle (callSteps true) (callSteps false) steps ∧
    ∀ first, (afterSteps addingCalls oneFeatureStore steps).feature "u" "a_mean" ≠
      (alone (addingCalls !first) (alone (addingCalls first) oneFeatureStore)).feature "u" "a_mean" :=
  -- The later write drops what the earlier one added.
  ⟨overlappingSteps, overlappingSteps_shuffle, by decide +kernel⟩

/-- The call that stores last has run alone, so only its own feature is added. -/
theorem concurrentUpdates_adding :
    (afterSteps addingCalls oneFeatureStore overlappingSteps).feature "u" "b_mean" = some 1 := by
  -- The client that adds this feature is the one that stores last.
  rw [(concurrentUpdates addingCalls rfl oneFeatureStore overlappingSteps_shuffle).2.2
    (by decide +kernel) (by decide) false rfl]
  decide +kernel

end Absm
