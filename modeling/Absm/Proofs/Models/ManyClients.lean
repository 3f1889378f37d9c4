import Absm.Foundation.SharedCell
import Absm.Proofs.Models.ConcurrentBaselines

/-! Any number of clients that update baselines at the same time, step by step. -/

namespace Absm

section Steps

variable {ι F : Type} [DecidableEq ι] [Add F] [Sub F] [Mul F] [Neg F] [OfScientific F] [LT F] [LE F]
  [DecidableLT F] [DecidableLE F]

/-- The atomic steps of the clients' calls. -/
inductive UpdateStep (ι F : Type) where
  /-- A client starts a call, which reads the profile unless the connection fails. -/
  | get (client : ι) (call : UpdateCall F) (raises : Bool)
  /-- The call of a client caches the refreshed profile, or meets a fault. -/
  | set (client : ι) (fault : Option Bool)

/-- The store, and for each client the call that is under way with the profile that it has read. -/
structure UpdatingClients (ι F : Type) where
  /-- The profiles that the store returns. -/
  store : FeatureStore F
  /-- The calls under way. -/
  working : ι → Option (UpdateCall F × UserProfile F)

namespace UpdatingClients

/-- One step of one of the clients. -/
def step (clients : UpdatingClients ι F) : UpdateStep ι F → UpdatingClients ι F
  | .get client call raises =>
    let read := if raises then none else (call.read clients.store).map fun profile => (call, profile)
    { clients with working := Function.update clients.working client read }
  | .set client fault =>
    match clients.working client with
    -- The call has raised before.
    | none => clients
    | some (call, profile) =>
      ⟨if fault = some false then clients.store
        else clients.store.setProfile call.userId (call.refresh profile),
        Function.update clients.working client none⟩

/-- The clients before any call. -/
def start (store : FeatureStore F) : UpdatingClients ι F :=
  -- No call is under way.
  ⟨store, fun _ => none⟩

/-- The store after some steps. -/
def after (store : FeatureStore F) (steps : List (UpdateStep ι F)) : FeatureStore F :=
  -- Failing steps are in the list too.
  (steps.foldl step (start store)).store

/-- The two steps of a call that nothing interrupts are a call of `update_baseline`. -/
theorem step_step (clients : UpdatingClients ι F) (client : ι) (call : UpdateCall F)
    (faults : StoreFaults) :
    ((clients.step (.get client call faults.getRaises)).step (.set client faults.setRaises)).store =
      (updateBaseline call faults clients.store).2 := by
  -- Each way in which the call raises leaves nothing to store.
  simp only [step, Function.update_self, UpdateCall.read, updateBaseline]
  by_cases admitted : call.admitted
  · rw [if_pos admitted, if_neg (not_not.mpr admitted)]
    cases faults.getRaises with
    | true => rfl
    | false =>
      cases clients.store call.userId with
      | none => rfl
      | some profile => rcases faults.setRaises with _ | _ | _ <;> rfl
  · rw [if_neg admitted, if_pos admitted]
    cases faults.getRaises <;> rfl

/-- What a step does to the profile of a user: reading it, or replacing it. -/
def cellAction (userId : String) (clients : UpdatingClients ι F) :
    UpdateStep ι F → List (CellAction ι (UpdateCall F))
  -- A get that is not admitted loads nothing, and a failed set may still store.
  | .get client call raises =>
    if call.userId = userId ∧ call.admitted ∧ raises = false then [.load client] else []
  | .set client fault =>
    match clients.working client with
    | none => []
    | some (call, _) => if call.userId = userId ∧ fault ≠ some false then [.store client call] else []

/-- What the steps do to the profile of a user. -/
def cellActions (userId : String) :
    UpdatingClients ι F → List (UpdateStep ι F) → List (CellAction ι (UpdateCall F))
  -- The state tells which call a client stores.
  | _, [] => []
  | clients, step :: steps =>
    clients.cellAction userId step ++ cellActions userId (clients.step step) steps

/-- A profile and a call on it, as the content of a cell and a change. -/
def refreshCell (profile : UserProfile F) (call : UpdateCall F) : Option (UserProfile F) :=
  -- A call refreshes what it has read.
  some (call.refresh profile)

/-- The cell holds the profile of a user, and the clients that work on it hold what they have read. -/
structure Follows (userId : String) (clients : UpdatingClients ι F)
    (shared : SharedCell ι (UserProfile F)) : Prop where
  /-- The cell is the profile in the store. -/
  cell : clients.store userId = some shared.cell
  /-- The copies are what was read. -/
  copies : ∀ client call profile, clients.working client = some (call, profile) →
    call.userId = userId → shared.held client = some profile

/-- The cell follows each step. -/
theorem Follows.step {userId : String} {clients : UpdatingClients ι F}
    {shared : SharedCell ι (UserProfile F)} (follows : Follows userId clients shared)
    (action : UpdateStep ι F) :
    ∃ next, runAll (SharedCell.step refreshCell) shared (clients.cellAction userId action) = some next ∧
      Follows userId (clients.step action) next := by
  cases action with
  | get client call raises =>
    by_cases reads : call.userId = userId ∧ call.admitted ∧ raises = false
    · -- The client's copy becomes what is in the cell.
      obtain ⟨rfl, admitted, rfl⟩ := reads
      refine ⟨{ shared with held := Function.update shared.held client (some shared.cell) },
        by simp [cellAction, admitted, runAll, SharedCell.step], follows.cell, ?_⟩
      intro other call' profile found about
      by_cases same : other = client
      · subst same
        simp only [UpdatingClients.step, Function.update_self, UpdateCall.read, if_pos admitted,
          follows.cell, Option.map_some, Bool.false_eq_true, if_false] at found
        cases found
        simp
      · simp only [UpdatingClients.step, Function.update_of_ne same] at found ⊢
        exact follows.copies other call' profile found about
    · refine ⟨shared, by simp [cellAction, reads, runAll], follows.cell, ?_⟩
      intro other call' profile found about
      by_cases same : other = client
      · -- A call that reads nothing of this user works on nothing of this user.
        subst same
        simp only [UpdatingClients.step, Function.update_self, UpdateCall.read] at found
        cases raises with
        | true => cases found
        | false =>
          by_cases admitted : call.admitted
          · rw [if_neg (by decide), if_pos admitted] at found
            obtain ⟨_, _, pair⟩ := Option.map_eq_some_iff.mp found
            cases pair
            exact absurd ⟨about, admitted, rfl⟩ reads
          · rw [if_neg (by decide), if_neg admitted] at found
            cases found
      · simp only [UpdatingClients.step, Function.update_of_ne same] at found
        exact follows.copies other call' profile found about
  | set client fault =>
    cases found : clients.working client with
    | none =>
      refine ⟨shared, by simp [cellAction, found, runAll], ?_⟩
      simpa [UpdatingClients.step, found] using follows
    | some work =>
      obtain ⟨call, profile⟩ := work
      -- Afterwards the other clients hold what they held.
      have others (held : ι → Option (UserProfile F))
          (kept : ∀ other, other ≠ client → held other = shared.held other) :
          ∀ other call' profile', Function.update clients.working client none other =
            some (call', profile') → call'.userId = userId → held other = some profile' := by
        intro other call' profile' working about
        by_cases same : other = client
        · simp [same] at working
        · rw [Function.update_of_ne same] at working
          exact (kept other same).trans (follows.copies other call' profile' working about)
      by_cases stores : call.userId = userId ∧ fault ≠ some false
      · obtain ⟨about, effective⟩ := stores
        have held := follows.copies client call profile found about
        refine ⟨⟨call.refresh profile, Function.update shared.held client (some (call.refresh profile))⟩,
          by simp [cellAction, found, about, effective, runAll, SharedCell.step, held, refreshCell], ?_, ?_⟩
        · simp [UpdatingClients.step, found, effective, FeatureStore.setProfile, about]
        · simp only [UpdatingClients.step, found]
          exact others _ fun other apart => Function.update_of_ne apart _ _
      · refine ⟨shared, by simp [cellAction, found, stores, runAll], ?_, ?_⟩
        · simp only [UpdatingClients.step, found]
          by_cases effective : fault = some false
          · rw [if_pos effective]
            exact follows.cell
          · have apart : userId ≠ call.userId := fun same => stores ⟨same.symm, effective⟩
            rw [if_neg effective, FeatureStore.setProfile, Function.update_of_ne apart]
            exact follows.cell
        · simp only [UpdatingClients.step, found]
          exact others _ fun _ _ => rfl

/-- The cell follows every run. -/
theorem Follows.run {userId : String} {clients : UpdatingClients ι F}
    {shared : SharedCell ι (UserProfile F)} (follows : Follows userId clients shared)
    (steps : List (UpdateStep ι F)) :
    ∃ final, runAll (SharedCell.step refreshCell) shared (cellActions userId clients steps) = some final ∧
      Follows userId (steps.foldl UpdatingClients.step clients) final := by
  -- Step by step.
  induction steps generalizing clients shared with
  | nil => exact ⟨shared, rfl, follows⟩
  | cons step steps ih =>
    obtain ⟨next, taken, followed⟩ := follows.step step
    obtain ⟨final, rest, ended⟩ := ih followed
    refine ⟨final, ?_, ended⟩
    rw [cellActions, runAll_append, taken]
    exact rest

/-- Every call that stores for a user has started as an admitted call on that user. -/
theorem changes_cellActions {userId : String} (started : UpdateCall F → Prop)
    {clients : UpdatingClients ι F} {steps : List (UpdateStep ι F)}
    (working : ∀ client call profile, clients.working client = some (call, profile) → started call)
    (starts : ∀ client call raises, .get client call raises ∈ steps → call.admitted → started call) :
    ∀ client call, .store client call ∈ cellActions userId clients steps →
      call.userId = userId ∧ started call := by
  -- A call is under way from its start to its end.
  induction steps generalizing clients with
  | nil => simp [cellActions]
  | cons step steps ih =>
    intro client call member
    rcases List.mem_append.mp member with here | later
    · cases step with
      | get other call' raises =>
        rw [cellAction] at here
        split at here <;> simp at here
      | set other fault =>
        cases found : clients.working other with
        | none => simp [cellAction, found] at here
        | some work =>
          simp only [cellAction, found] at here
          split at here
          case isTrue stores =>
            obtain ⟨rfl, rfl⟩ : client = other ∧ call = work.1 := by simpa using here
            exact ⟨stores.1, working client work.1 work.2 found⟩
          case isFalse => cases here
    · refine ih ?_ (fun other call' raises within => starts other call' raises (.tail _ within)) client call
        later
      intro other call' profile found
      cases step with
      | get starter call'' raises =>
        by_cases same : other = starter
        · subst same
          simp only [UpdatingClients.step, Function.update_self] at found
          cases raises with
          | true => cases found
          | false =>
            obtain ⟨read, isRead, pair⟩ := Option.map_eq_some_iff.mp found
            cases pair
            unfold UpdateCall.read at isRead
            split at isRead
            case isTrue admitted => exact starts other call' false (.head _) admitted
            case isFalse => cases isRead
        · simp only [UpdatingClients.step, Function.update_of_ne same] at found
          exact working other call' profile found
      | set ender fault =>
        cases ended : clients.working ender with
        | none =>
          simp only [UpdatingClients.step, ended] at found
          exact working other call' profile found
        | some work =>
          simp only [UpdatingClients.step, ended] at found
          by_cases same : other = ender
          · simp [same] at found
          · rw [Function.update_of_ne same] at found
            exact working other call' profile found

/-- Without a profile of a user nothing happens to it. -/
theorem without_profile {userId : String} {clients : UpdatingClients ι F}
    (missing : clients.store userId = none)
    (idle : ∀ client call profile, clients.working client = some (call, profile) → call.userId ≠ userId)
    (steps : List (UpdateStep ι F)) :
    (steps.foldl step clients).store userId = none ∧
      ∀ client call, .store client call ∉ cellActions userId clients steps := by
  -- No call works on the user, so that none stores anything for it.
  induction steps generalizing clients with
  | nil => exact ⟨missing, by simp [cellActions]⟩
  | cons action steps ih =>
    have kept : (clients.step action).store userId = none ∧
        (∀ client call profile, (clients.step action).working client = some (call, profile) →
          call.userId ≠ userId) ∧
        ∀ client call, .store client call ∉ clients.cellAction userId action := by
      cases action with
      | get starter call' raises =>
        refine ⟨missing, fun client call profile found => ?_, fun client call member => ?_⟩
        · by_cases same : client = starter
          · subst same
            simp only [step, Function.update_self] at found
            cases raises with
            | true => cases found
            | false =>
              obtain ⟨read, isRead, pair⟩ := Option.map_eq_some_iff.mp found
              cases pair
              rintro rfl
              simp [UpdateCall.read, missing] at isRead
          · simp only [step, Function.update_of_ne same] at found
            exact idle client call profile found
        · rw [cellAction] at member
          split at member <;> simp at member
      | set ender fault =>
        cases ended : clients.working ender with
        | none => simpa [step, cellAction, ended] using And.intro missing idle
        | some work =>
          have other := idle ender work.1 work.2 ended
          refine ⟨?_, fun client call profile found => ?_, by simp [cellAction, ended, other]⟩
          · simp only [step, ended]
            split
            · exact missing
            · rw [FeatureStore.setProfile, Function.update_of_ne (Ne.symm other)]
              exact missing
          · simp only [step, ended] at found
            by_cases same : client = ender
            · simp [same] at found
            · rw [Function.update_of_ne same] at found
              exact idle client call profile found
    obtain ⟨absent, free⟩ := ih kept.1 kept.2.1
    refine ⟨absent, fun client call member => ?_⟩
    exact (List.mem_append.mp member).elim (kept.2.2 client call) (free client call)

end UpdatingClients

/-- Admitted calls on a user that run one after another without faults refresh the user's profile in turn. -/
theorem afterCalls_serial {userId : String} {calls : List (UpdateCall F)}
    (admitted : ∀ call ∈ calls, call.userId = userId ∧ call.admitted) {store : FeatureStore F}
    {profile : UserProfile F} (found : store userId = some profile) :
    afterCalls store (calls.map fun call => (call, StoreFaults.none)) userId =
      some (calls.foldl (fun profile call => call.refresh profile) profile) := by
  -- Each call finds the profile that the one before has stored.
  induction calls generalizing store profile with
  | nil => exact found
  | cons call calls ih =>
    obtain ⟨⟨rfl, accepted⟩, others⟩ := List.forall_mem_cons.mp admitted
    have takes : call.takesEffect .none store := ⟨accepted, rfl, by simp [found], by simp [StoreFaults.none]⟩
    exact ih others ((updateBaseline_self takes).trans (by rw [found]; rfl))

namespace UpdatingClients

/-- The calls that have stored a profile of a user, the first one first. -/
def storingCalls (userId : String) (store : FeatureStore F) (steps : List (UpdateStep ι F)) :
    List (UpdateCall F) :=
  -- The actions are listed newest first.
  SharedCell.changes (cellActions userId (start store) steps).reverse

/-- Those of them whose refreshment is in the profile at the end: the call that stored last, the call
whose profile it had read, and so on back to the first one. -/
def survivingCalls (userId : String) (store : FeatureStore F) (steps : List (UpdateStep ι F)) :
    List (UpdateCall F) :=
  -- Followed back from the last store.
  SharedCell.survivors none (cellActions userId (start store) steps).reverse

/-- Surviving calls have started as admitted calls on the user. -/
theorem survivingCalls_started {userId : String} {store : FeatureStore F}
    {steps : List (UpdateStep ι F)} (started : UpdateCall F → Prop)
    (starts : ∀ client call raises, .get client call raises ∈ steps → call.admitted → started call) :
    ∀ call ∈ survivingCalls userId store steps, call.userId = userId ∧ started call := by
  -- What survives has stored, and a client stores the call that it had started.
  intro call member
  obtain ⟨client, stored⟩ := SharedCell.mem_changes.mp ((SharedCell.survivors_sublist none _).subset member)
  have idle (client : ι) (call : UpdateCall F) (profile : UserProfile F)
      (working : (start store).working client = some (call, profile)) : started call := by cases working
  exact changes_cellActions started idle starts client call (List.mem_reverse.mp stored)

/-- A user's profile is what the surviving calls make of it when they run one after another. -/
theorem after_eq_serial (store : FeatureStore F) (steps : List (UpdateStep ι F)) (userId : String) :
    after store steps userId =
      afterCalls store ((survivingCalls userId store steps).map fun call => (call, StoreFaults.none))
        userId := by
  have admitted : ∀ call ∈ survivingCalls userId store steps, call.userId = userId ∧ call.admitted :=
    survivingCalls_started UpdateCall.admitted fun _ _ _ _ accepted => accepted
  cases found : store userId with
  | none =>
    -- Nothing is ever stored for a user without a profile.
    have idle (client : ι) (call : UpdateCall F) (profile : UserProfile F)
        (working : (start store).working client = some (call, profile)) : call.userId ≠ userId := by
      cases working
    obtain ⟨missing, free⟩ := without_profile (show (start store).store userId = none from found) idle steps
    have nobody : survivingCalls userId store steps = [] := by
      refine List.eq_nil_iff_forall_not_mem.mpr fun call member => ?_
      obtain ⟨client, stored⟩ := SharedCell.mem_changes.mp ((SharedCell.survivors_sublist none _).subset member)
      exact free client call (List.mem_reverse.mp stored)
    rw [nobody]
    exact missing.trans found.symm
  | some profile =>
    have follows : Follows userId (start store) ⟨profile, fun _ : ι => none⟩ :=
      ⟨found, fun _ _ _ working => by cases working⟩
    obtain ⟨final, run, ended⟩ := follows.run steps
    rw [← List.reverse_reverse (cellActions _ _ _)] at run
    have replayed := (SharedCell.replay _ run).1
    rw [show refreshCell = fun (profile : UserProfile F) call => pure (call.refresh profile) from rfl,
      List.foldlM_pure] at replayed
    rw [afterCalls_serial admitted found]
    exact ended.cell.trans replayed.symm

/-- However the calls of any number of clients interleave, and whatever goes wrong with the connection, each
user's profile is at the end what the surviving calls make of it when they run one after another; these are
among the calls that have stored, in the order in which they did; and no call is lost exactly when each has
read the profile after the last store before its own. -/
theorem after_eq_survivors (store : FeatureStore F) (steps : List (UpdateStep ι F)) (userId : String) :
    after store steps userId =
        afterCalls store ((survivingCalls userId store steps).map fun call => (call, StoreFaults.none))
          userId ∧
      (survivingCalls userId store steps).Sublist (storingCalls userId store steps) ∧
      (survivingCalls userId store steps = storingCalls userId store steps ↔
        SharedCell.Serialized (cellActions userId (start store) steps).reverse) :=
  -- One user is one cell, and its calls are the cell's changes.
  ⟨after_eq_serial store steps userId, SharedCell.survivors_sublist none _,
    SharedCell.survivors_eq_changes_iff⟩

end UpdatingClients
end Steps

section Ranges

variable {ι K : Type} [DecidableEq ι] [Field K] [LinearOrder K] [IsStrictOrderedRing K]

namespace UpdatingClients

/-- The values of a user's feature that the calls have brought. -/
def broughtValues (userId key : String) (steps : List (UpdateStep ι K)) : List K :=
  -- The values that any started call brings, whether it is stored or not.
  steps.flatMap fun step =>
    match step with
    | .get _ call _ => if call.userId = userId then (call.newFeatureVec.get? key).toList else []
    | .set _ _ => []

omit [DecidableEq ι] [Field K] [LinearOrder K] [IsStrictOrderedRing K] in
/-- The value that a started call brings. -/
theorem mem_broughtValues {steps : List (UpdateStep ι K)} {client : ι} {call : UpdateCall K} {raises : Bool}
    (started : .get client call raises ∈ steps) {key : String} {value : K}
    (brought : call.newFeatureVec.get? key = some value) : value ∈ broughtValues call.userId key steps :=
  -- The call is one of those started.
  List.mem_flatMap.mpr ⟨_, started, by simp [brought]⟩

omit [IsStrictOrderedRing K] in
/-- The observations of a run are values that its calls bring for the user. -/
theorem observed_of_calls {userId key : String} {value : K} {calls : List (UpdateCall K × StoreFaults)}
    {store : FeatureStore K} (observed : value ∈ observations userId key store calls) :
    ∃ call ∈ calls, call.1.userId = userId ∧ call.1.newFeatureVec.get? key = some value := by
  -- A value is observed by the first call or by one of those that follow.
  induction calls generalizing store with
  | nil => simp [observations] at observed
  | cons call calls ih =>
    rcases List.mem_append.mp observed with here | later
    · split at here
      case isTrue takes => exact ⟨call, .head _, takes.1, by simpa using here⟩
      case isFalse => cases here
    · obtain ⟨found, member, about⟩ := ih later
      exact ⟨found, .tail _ member, about⟩

/-- However the calls of any number of clients interleave, and whatever goes wrong with the connection, each
feature of each user stays in the range of its initial value and the values that the calls have brought. -/
theorem after_inHull {store : FeatureStore K} {steps : List (UpdateStep ι K)} {userId key : String}
    {value : K} (stored : (after store steps).feature userId key = some value) :
    InHull ((store.feature userId key).toList ++ broughtValues userId key steps) value := by
  -- The surviving calls in turn have kept the feature in the range, and each of them had started.
  rw [FeatureStore.feature, after_eq_serial] at stored
  refine (afterCalls_inHull stored).mono (List.append_subset.mpr
    ⟨List.subset_append_left _ _, fun found observed => List.mem_append_right _ ?_⟩)
  obtain ⟨entry, member, about, brought⟩ := observed_of_calls observed
  obtain ⟨call, survives, rfl⟩ := List.mem_map.mp member
  obtain ⟨_, client, raises, started⟩ := survivingCalls_started
    (fun call => ∃ client raises, UpdateStep.get client call raises ∈ steps)
    (fun client call raises started _ => ⟨client, raises, started⟩) call survives
  exact about ▸ mem_broughtValues started brought

/-- Two clients read before either stores. -/
def overlappingUpdates : List (UpdateStep Bool ℚ) :=
  -- Both clients read ten.
  let call : UpdateCall ℚ := ⟨"u", .ofList [("x_mean", 20)], 1 / 2, .epoch⟩
  [.get true call false, .get false call false, .set true none, .set false none]

/-- One of two overlapping moves from 10 towards 20 is lost, and the other one stays in the range. -/
theorem after_inHull_overlapping : InHull [10, 20, 20] (15 : ℚ) := by
  -- The second write stores what the first one did.
  have stored : (after oneFeatureStore overlappingUpdates).feature "u" "x_mean" = some 15 := by
    decide +kernel
  have values : (oneFeatureStore.feature "u" "x_mean").toList ++
      broughtValues "u" "x_mean" overlappingUpdates = [10, 20, 20] := by decide +kernel
  exact values ▸ after_inHull stored

end UpdatingClients
end Ranges
end Absm
