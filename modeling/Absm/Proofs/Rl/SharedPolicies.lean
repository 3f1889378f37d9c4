import Absm.Foundation.SharedCell
import Absm.Foundation.WholeFloat
import Absm.Proofs.Rl.QTable
import Absm.Rl.PolicyRuns

/-! What survives of the updates that several workers make through one file. -/

namespace Absm

variable {ι F : Type} [DecidableEq ι] [FloatRepr F] [FloatCast F] [Zero F] [One F] [Add F] [Sub F]
  [Mul F] [LE F] [LT F] [DecidableLE F] [DecidableLT F]

open ContextualBanditPolicy

/-! ### The file as a cell -/

/-- What a call does to the cell that the file stands for. -/
def WorkerCall.toCell (alpha : ι → F) : WorkerCall ι F → CellAction ι (Lesson F)
  -- A construction reads the file and an update writes it.
  | .construct worker => .load worker
  | .update worker state action reward => .store worker ⟨state, action, reward, alpha worker⟩

/-- The file holds the content of the cell, and the policies hold the copies. -/
structure Mirrors (room : Nat) (alpha : ι → F) (shared : SharedPolicies ι F)
    (cell : SharedCell ι (QTable F)) : Prop where
  /-- The file gives the content of the cell back. -/
  file : loadQTable room shared.file = .ok cell.cell
  /-- Every policy holds the copy of its worker. -/
  copies : ∀ worker, (shared.policies worker).map (·.qTable) = cell.held worker
  /-- Every policy learns at the rate of its worker. -/
  rates : ∀ worker policy, shared.policies worker = some policy → policy.alpha = alpha worker

omit [Add F] [Sub F] [Mul F] in
/-- A policy that was constructed has the parameters it was given and the table in the file. -/
theorem init_eq_ok {room : Nat} {epsilon alpha : F} {file : QFile}
    {policy : ContextualBanditPolicy F} (constructed : init room epsilon alpha file = .ok policy) :
    loadQTable room file = .ok policy.qTable ∧ policy.alpha = alpha := by
  -- Both checks have passed, and the load has returned.
  unfold init at constructed
  split at constructed
  case isFalse => cases constructed
  split at constructed
  case isFalse => cases constructed
  obtain ⟨qTable, loaded, returned⟩ := bind_eq_ok.mp constructed
  cases returned
  exact ⟨loaded, rfl⟩

omit [Add F] [Sub F] [Mul F] [DecidableLE F] [DecidableLT F] in
/-- One worker gets a policy, and the cell and the copy of that worker are those of the policy. -/
theorem Mirrors.replace {room : Nat} {alpha : ι → F} {shared : SharedPolicies ι F}
    {cell : SharedCell ι (QTable F)} (mirrors : Mirrors room alpha shared cell) {worker : ι}
    (policy : ContextualBanditPolicy F) (rate : policy.alpha = alpha worker) {file : QFile}
    (loaded : loadQTable room file = .ok policy.qTable) :
    Mirrors room alpha ⟨file, Function.update shared.policies worker (some policy)⟩
      ⟨policy.qTable, Function.update cell.held worker (some policy.qTable)⟩ := by
  -- The other workers keep their policies and their copies.
  refine ⟨loaded, fun other => ?_, fun other held found => ?_⟩
  · by_cases same : other = worker
    · subst same
      simp
    · simpa [same] using mirrors.copies other
  · by_cases same : other = worker
    · subst same
      simp only [Function.update_self, Option.some.injEq] at found
      rw [← found, rate]
    · simp only [Function.update_of_ne same] at found
      exact mirrors.rates other held found

/-- Constructing a policy loads a copy of the cell. -/
theorem Mirrors.construct {room : Nat} {epsilon alpha : ι → F} {shared shared' : SharedPolicies ι F}
    {cell : SharedCell ι (QTable F)} (mirrors : Mirrors room alpha shared cell) {worker : ι}
    (taken : shared.step room epsilon alpha (.construct worker) = some shared') :
    Mirrors room alpha shared'
      { cell with held := Function.update cell.held worker (some cell.cell) } := by
  -- The constructor reads the file, which is the cell.
  unfold SharedPolicies.step at taken
  dsimp only at taken
  split at taken
  case h_2 => cases taken
  case h_1 policy constructed =>
    cases taken
    obtain ⟨loaded, rate⟩ := init_eq_ok constructed
    -- The file is not written, so the cell stays what it was.
    have table : policy.qTable = cell.cell := Except.ok.inj (loaded.symm.trans mirrors.file)
    rw [← table]
    exact mirrors.replace policy rate loaded

/-- An update stores the learned table into the cell. -/
theorem Mirrors.update {room : Nat} {epsilon alpha : ι → F} {shared shared' : SharedPolicies ι F}
    {cell : SharedCell ι (QTable F)} (mirrors : Mirrors (room + 2) alpha shared cell) {worker : ι}
    {state : State} {action : ℚ} {reward : F}
    (taken : shared.step (room + 2) epsilon alpha (.update worker state action reward) =
      some shared') :
    ∃ copy learned, cell.held worker = some copy ∧
      (⟨state, action, reward, alpha worker⟩ : Lesson F).apply copy = some learned ∧
      Mirrors (room + 2) alpha shared'
        ⟨learned, Function.update cell.held worker (some learned)⟩ := by
  -- The copy in memory is changed and written as a whole.
  unfold SharedPolicies.step at taken
  dsimp only at taken
  split at taken
  case h_1 => cases taken
  case h_2 policy found =>
    have rate := mirrors.rates worker policy found
    have copy : cell.held worker = some policy.qTable := by
      rw [← mirrors.copies worker, found]
      rfl
    cases applied : (lessonOf policy state action reward).apply policy.qTable with
    | none =>
      -- An update that is refused raises, which is no step.
      obtain ⟨error, refused⟩ := update_of_refused applied shared.file .noFault
      simp [refused] at taken
    | some learned =>
      rw [update_of_apply applied] at taken
      simp only [saveQTable, if_true, Option.some.injEq] at taken
      subst taken
      have replaced := mirrors.replace { policy with qTable := learned } rate
        (loadQTable_saved room learned)
      exact ⟨policy.qTable, learned, copy, by rw [← rate]; exact applied, replaced⟩

/-- The cell follows every call. -/
theorem Mirrors.step {room : Nat} {epsilon alpha : ι → F} {shared shared' : SharedPolicies ι F}
    {cell : SharedCell ι (QTable F)} (mirrors : Mirrors (room + 2) alpha shared cell)
    {call : WorkerCall ι F} (taken : shared.step (room + 2) epsilon alpha call = some shared') :
    ∃ cell', cell.step (fun table lesson => Lesson.apply table lesson) (call.toCell alpha) =
      some cell' ∧ Mirrors (room + 2) alpha shared' cell' := by
  -- A call is one action of the cell.
  cases call with
  | construct worker => exact ⟨_, rfl, mirrors.construct taken⟩
  | update worker state action reward =>
    obtain ⟨copy, learned, held, applied, mirrored⟩ := mirrors.update taken
    exact ⟨_, by simp [WorkerCall.toCell, SharedCell.step, held, applied], mirrored⟩

/-! ### Values -/

/-- Whether a lesson is about an action in a context. -/
def Lesson.isAbout (lesson : Lesson F) (state : State) (action : ℚ) : Bool :=
  -- About the state itself, not its key.
  lesson.state = state ∧ lesson.action = action

/-- The table holds, for every state and action, the initial value moved by the lessons about
them, in order. -/
def HoldsLessons (table initial : QTable F) (lessons : List (Lesson F)) : Prop :=
  -- The lessons about it are folded in their order.
  ∀ state, ∀ action ∈ thresholdActions, valueUnder table (stateKey state) action =
    (valueUnder initial (stateKey state) action).map fun value =>
      (lessons.filter (·.isAbout state action)).foldl (fun value lesson => lesson.move value) value

omit [FloatRepr F] [FloatCast F] [One F] [LE F] [LT F] [DecidableLE F] [DecidableLT F] in
/-- Learning lessons one after another moves every value by the lessons about it. -/
theorem holdsLessons_of_foldlM {initial table : QTable F} {lessons : List (Lesson F)}
    (learned : lessons.foldlM (fun table lesson => Lesson.apply table lesson) initial = some table) :
    HoldsLessons table initial lessons := by
  -- The first lesson moves the value if it is about it, and the others go on from there.
  induction lessons generalizing initial with
  | nil =>
    cases learned
    intro state action _
    simp
  | cons lesson lessons ih =>
    rw [List.foldlM_cons] at learned
    obtain ⟨next, applied, rest⟩ := Option.bind_eq_some_iff.mp learned
    intro state action valid
    rw [ih rest state action valid, valueUnder_apply applied (stateKey state) valid]
    by_cases about : lesson.isAbout state action = true
    · obtain ⟨rfl, rfl⟩ : lesson.state = state ∧ lesson.action = action := by
        simpa [Lesson.isAbout] using about
      simp [about, Option.map_map, Function.comp_def]
    · have elsewhere : ¬ (stateKey state = stateKey lesson.state ∧ action = lesson.action) := by
        rintro ⟨sameKey, sameAction⟩
        exact about (by simp [Lesson.isAbout, stateKey_inj sameKey, sameAction])
      simp [about, elsewhere]

/-- The updates of a run, the latest first, as changes of the cell. -/
def updatesOf (alpha : ι → F) (calls : List (WorkerCall ι F)) : List (CellAction ι (Lesson F)) :=
  -- The newest action comes first.
  (calls.map (WorkerCall.toCell alpha)).reverse

/-- A policy constructed from the file after a run holds the updates that survive in it, and these
are all updates when each was made by a worker that had constructed or updated its policy since the
last update of any other worker. -/
theorem sharedPolicies_holdSurvivors (room : Nat) (epsilon alpha : ι → F) (file : QFile)
    (initial : QTable F) (loaded : loadQTable (room + 2) file = .ok initial)
    (calls : List (WorkerCall ι F)) (final : SharedPolicies ι F)
    (run : runAll (SharedPolicies.step (room + 2) epsilon alpha) ⟨file, fun _ => none⟩ calls =
      some final) :
    ∃ table,
      (∀ (explores learns : F) (policy : ContextualBanditPolicy F),
        init (room + 2) explores learns final.file = .ok policy → policy.qTable = table) ∧
      loadQTable (room + 2) final.file = .ok table ∧
      HoldsLessons table initial (SharedCell.survivors none (updatesOf alpha calls)) ∧
      (SharedCell.Serialized (updatesOf alpha calls) →
        HoldsLessons table initial (SharedCell.changes (updatesOf alpha calls))) := by
  -- The run is followed by the cell, whose replay tells what it holds.
  have start : Mirrors (room + 2) alpha (⟨file, fun _ => none⟩ : SharedPolicies ι F)
      ⟨initial, fun _ => none⟩ := by
    refine ⟨loaded, fun _ => rfl, fun worker held found => ?_⟩
    cases found
  obtain ⟨cell, cellRun, mirrors⟩ := runAll_simulates (WorkerCall.toCell alpha)
    (Mirrors (room + 2) alpha) (fun _ _ _ _ mirrors taken => mirrors.step taken) start run
  rw [← List.reverse_reverse (calls.map (WorkerCall.toCell alpha))] at cellRun
  have holds := holdsLessons_of_foldlM (SharedCell.replay _ cellRun).1
  refine ⟨cell.cell, fun explores learns policy constructed => ?_, mirrors.file, holds,
    fun serialized => ?_⟩
  · exact Except.ok.inj ((init_eq_ok constructed).1.symm.trans mirrors.file)
  · rw [← SharedCell.survivors_eq_changes_iff.mpr serialized]
    exact holds

/-! ### Two workers -/

/-- Two workers construct their policies before either updates its own. -/
def twoWorkers : List (WorkerCall Bool Int) :=
  -- Both construct before either updates.
  [.construct true, .construct false, .update true ⟨"analyst", 9⟩ (3 / 10) 1,
    .update false ⟨"analyst", 9⟩ (4 / 10) 1]

/-- The run of the two workers, who learn whole rewards at once. -/
def twoWorkersRun : Option (SharedPolicies Bool Int) :=
  -- Nothing is in the file at the start.
  runAll (SharedPolicies.step 2 (fun _ => 0) fun _ => 1) ⟨none, fun _ => none⟩ twoWorkers

/-- The run goes through, and the file then holds the second update only. -/
theorem twoWorkersRun_values : ∃ final, twoWorkersRun = some final ∧ ∃ table : QTable Int,
    loadQTable 2 final.file = .ok table ∧ valueUnder table "analyst|9" (3 / 10) = some 0 ∧
      valueUnder table "analyst|9" (4 / 10) = some 1 := by
  -- The file is read back after the whole run.
  have values : (twoWorkersRun.bind fun final =>
      (loadQTable 2 final.file : Except PyError (QTable Int)).toOption.map fun table =>
        (valueUnder table "analyst|9" (3 / 10), valueUnder table "analyst|9" (4 / 10))) =
      some (some 0, some 1) := by decide +kernel
  obtain ⟨final, run, rest⟩ := Option.bind_eq_some_iff.mp values
  obtain ⟨table, loaded, both⟩ := Option.map_eq_some_iff.mp rest
  refine ⟨final, run, table, ?_, congrArg Prod.fst both, congrArg Prod.snd both⟩
  cases read : (loadQTable 2 final.file : Except PyError (QTable Int)) with
  | error error => simp [read, Except.toOption] at loaded
  | ok stored => simpa [read, Except.toOption] using loaded

/-- After the run of the two workers the file holds what the surviving update taught. -/
theorem sharedPolicies_holdSurvivors_two : ∃ final, twoWorkersRun = some final ∧ ∃ table,
    (∀ (explores learns : Int) (policy : ContextualBanditPolicy Int),
      init 2 explores learns final.file = .ok policy → policy.qTable = table) ∧
    loadQTable 2 final.file = .ok table ∧
    HoldsLessons table .empty (SharedCell.survivors none (updatesOf (fun _ => 1) twoWorkers)) ∧
    (SharedCell.Serialized (updatesOf (fun _ => 1) twoWorkers) →
      HoldsLessons table .empty (SharedCell.changes (updatesOf (fun _ => 1) twoWorkers))) := by
  -- The run of the two workers is one that ends.
  obtain ⟨final, run, _⟩ := twoWorkersRun_values
  exact ⟨final, run, sharedPolicies_holdSurvivors 0 (fun _ => 0) (fun _ => 1) none .empty rfl twoWorkers final
    run⟩

/-- After the run of the two workers the file does not hold what both updates taught. -/
theorem twoWorkersRun_loses : ∃ final, twoWorkersRun = some final ∧
    ∀ table, loadQTable 2 final.file = .ok table →
      ¬ HoldsLessons table .empty (SharedCell.changes (updatesOf (fun _ => 1) twoWorkers)) := by
  -- Of two lessons about different actions only the second is in the file.
  obtain ⟨final, run, stored, loaded, lost, _⟩ := twoWorkersRun_values
  refine ⟨final, run, fun table reloaded holds => ?_⟩
  obtain rfl : stored = table := Except.ok.inj (loaded.symm.trans reloaded)
  have both := holds ⟨"analyst", 9⟩ (3 / 10) (by decide +kernel)
  rw [show stateKey ⟨"analyst", 9⟩ = "analyst|9" by decide +kernel, lost] at both
  exact absurd both (by decide +kernel)

end Absm
