import Mathlib.Data.Rat.Sqrt
import Absm.Drift.RetrainingScheduler
import Absm.Foundation.Runs

/-! What a drift detector still knows after any calls: the newest observations since its last reset. -/

namespace Absm

variable {F : Type}

/-! ### Windows -/

namespace ADWINDetector

/-- The detector's window holds the newest of the observations that it has been fed. -/
structure Newest (maxWindow : Nat) (fed : List F) (detector : ADWINDetector F) : Prop where
  /-- The window has this bound. -/
  bound : detector.maxWindow = maxWindow
  /-- The window holds as many of the observations as fit. -/
  window : detector.window = fed.rtake maxWindow

variable {maxWindow : Nat} {fed : List F} {detector : ADWINDetector F}

/-- One more observation. -/
theorem Newest.observe (newest : detector.Newest maxWindow fed) (value : F) :
    (detector.observe value).Newest maxWindow (fed ++ [value]) := by
  -- The observation slides into the window.
  have slid : slide detector.maxWindow detector.window value = (fed ++ [value]).rtake maxWindow := by
    rw [newest.bound, newest.window, slide_rtake]
  exact ⟨newest.bound, slid⟩

/-- A reset forgets all observations. -/
theorem Newest.reset (newest : detector.Newest maxWindow fed) :
    detector.reset.Newest maxWindow [] :=
  -- The empty window is the newest part of no observations.
  ⟨newest.bound, (List.rtake_nil _).symm⟩

/-- The newest observations determine the detector. -/
theorem Newest.unique {other : ADWINDetector F} {others : List F}
    (newest : detector.Newest maxWindow fed) (same : other.Newest maxWindow others)
    (agree : fed.rtake maxWindow = others.rtake maxWindow) : detector = other := by
  -- Window and bound are all that a detector has.
  have windows := newest.window.trans (agree.trans same.window.symm)
  have bounds := newest.bound.trans same.bound.symm
  cases detector
  cases other
  cases windows
  cases bounds
  rfl

/-- A constructed detector has been fed nothing. -/
theorem init_newest (large : 10 ≤ maxWindow) :
    ∃ fresh : ADWINDetector F, init maxWindow = .ok fresh ∧ fresh.Newest maxWindow [] := by
  -- The size is large enough, and nothing has been observed.
  have enough : ¬ (maxWindow : Int) < 10 := by omega
  rw [init, dif_neg enough]
  exact ⟨_, rfl, Int.toNat_natCast _, (List.rtake_nil _).symm⟩

/-- The bound that is used when none is given is accepted. -/
theorem init_default : ∃ fresh : ADWINDetector F, init defaultMaxWindow = .ok fresh :=
  -- The default is large enough.
  (init_newest (show 10 ≤ 50 by decide)).imp fun _ made => made.1

end ADWINDetector

section Calls

variable [Sub F] [Neg F] [OfScientific F] [BEq F] [LT F] [DecidableLT F] [Statistics F]

/-! ### Batches -/

/-- What the detector answers to each of some observations, or raises over it. -/
def ADWINDetector.signals (detector : ADWINDetector F) (values : List F) : List (Except PyError Bool) :=
  -- What a call answers or raises does not keep the next one from being made.
  (respondAll ADWINDetector.addElement detector values).1

/-- The detector after some observations. -/
def ADWINDetector.observeAll (detector : ADWINDetector F) (values : List F) : ADWINDetector F :=
  -- The detector goes on also after a call that raises.
  (respondAll ADWINDetector.addElement detector values).2

/-- Some more observations. -/
theorem ADWINDetector.Newest.observeAll {maxWindow : Nat} {fed : List F} {detector : ADWINDetector F}
    (newest : detector.Newest maxWindow fed) (values : List F) :
    (detector.observeAll values).Newest maxWindow (fed ++ values) := by
  -- Each observation is appended to those that have been fed.
  induction values generalizing fed detector with
  | nil => rwa [List.append_nil]
  | cons value values ih =>
    rw [List.append_cons]
    exact ih (newest.observe value)

/-- The answer to the first observation comes before those to the others. -/
theorem ADWINDetector.signals_cons (detector : ADWINDetector F) (value : F) (values : List F) :
    detector.signals (value :: values) =
      (detector.addElement value).1 :: (detector.addElement value).2.signals values :=
  -- The first value is added first.
  rfl

/-- If no observation raises, the loop feeds each of them once and remembers whether one of the answers was
a signal. -/
theorem feedValues_returns {detector : ADWINDetector F} {current : List F} {signals : List Bool}
    (answers : detector.signals current = signals.map .ok) (triggered : Bool) :
    feedValues triggered detector current = (.ok (triggered || signals.any id), detector.observeAll current) := by
  induction current generalizing triggered detector signals with
  | nil =>
    rw [List.map_eq_nil_iff.mp answers.symm]
    simp [feedValues, ADWINDetector.observeAll, respondAll]
  | cons value current ih =>
    rw [ADWINDetector.signals_cons] at answers
    obtain ⟨signal, others, rfl, answer, rest⟩ := List.map_eq_cons_iff.mp answers.symm
    have added : detector.addElement value = (.ok signal, (detector.addElement value).2) :=
      Prod.ext answer.symm rfl
    rw [feedValues, added]
    refine (ih rest.symm _).trans ?_
    -- A signal is remembered whatever the later answers are.
    cases signal <;> cases triggered <;> rfl

/-- The first observation that raises ends the loop, and it is the last one that is fed. -/
theorem feedValues_raises {detector : ADWINDetector F} {before : List F} {signals : List Bool} {value : F}
    {raised : PyError} (answers : detector.signals before = signals.map .ok)
    (raises : ((detector.observeAll before).addElement value).1 = .error raised) (after : List F)
    (triggered : Bool) :
    feedValues triggered detector (before ++ value :: after) =
      (.error raised, detector.observeAll (before ++ [value])) := by
  induction before generalizing triggered detector signals with
  | nil =>
    have added : detector.addElement value = (.error raised, (detector.addElement value).2) :=
      Prod.ext raises rfl
    rw [List.nil_append, feedValues, added]
    rfl
  | cons earlier before ih =>
    rw [ADWINDetector.signals_cons] at answers
    obtain ⟨signal, others, rfl, answer, rest⟩ := List.map_eq_cons_iff.mp answers.symm
    have added : detector.addElement earlier = (.ok signal, (detector.addElement earlier).2) :=
      Prod.ext answer.symm rfl
    rw [List.cons_append, feedValues, added]
    -- The loop goes on behind the observations that do not raise.
    exact ih rest.symm raises _

/-- What the loop remembers at its start is part of what it returns. -/
theorem feedValues_triggered (triggered : Bool) (detector : ADWINDetector F) (current : List F) :
    feedValues triggered detector current =
      ((feedValues false detector current).1.map (triggered || ·), (feedValues false detector current).2) := by
  induction current generalizing triggered detector with
  | nil => simp [feedValues, Except.map]
  | cons value current ih =>
    rw [feedValues, feedValues]
    rcases detector.addElement value with ⟨raised | signal, next⟩
    · rfl
    · -- The answer to the first observation is remembered on both sides.
      dsimp only
      rw [ih, ih (if signal then true else false)]
      cases (feedValues false next current).1 <;> cases triggered <;> cases signal <;> rfl

/-- Feeding two batches at once is feeding the one and then the other, and signals if one of them does. -/
theorem feedValues_append (detector : ADWINDetector F) (first second : List F) :
    feedValues false detector (first ++ second) =
      match feedValues false detector first with
      | (.ok signal, middle) =>
        ((feedValues false middle second).1.map (signal || ·), (feedValues false middle second).2)
      | (.error raised, middle) => (.error raised, middle) := by
  have general (triggered : Bool) : feedValues triggered detector (first ++ second) =
      match feedValues triggered detector first with
      | (.ok signal, middle) => feedValues signal middle second
      | (.error raised, middle) => (.error raised, middle) := by
    -- The loop does not know where the second batch starts.
    induction first generalizing triggered detector with
    | nil => rfl
    | cons value first ih =>
      rw [List.cons_append, feedValues, feedValues]
      rcases detector.addElement value with ⟨raised | signal, next⟩
      · rfl
      · exact ih next _
  rw [general]
  rcases feedValues false detector first with ⟨raised | signal, middle⟩
  · rfl
  · exact feedValues_triggered signal middle second

/-- A check of samples that are not empty feeds the current one and reports its signals. -/
theorem checkAndScheduleRetrain_eq (ksPvalue : List F → List F → F) {current reference : List F}
    (nonempty : current ≠ [] ∧ reference ≠ []) (detector : ADWINDetector F) :
    checkAndScheduleRetrain ksPvalue current reference detector =
      ((feedValues false detector current).1.map (decide (ksPvalue current reference < 0.05) || ·),
        (feedValues false detector current).2) := by
  -- Neither of the samples stops the check.
  have both : (current.isEmpty || reference.isEmpty) = false := by simp [nonempty]
  rw [checkAndScheduleRetrain, both]
  rfl

/-- A check of an empty sample raises before anything is fed. -/
theorem checkAndScheduleRetrain_empty (ksPvalue : List F → List F → F) {current reference : List F}
    (empty : current = [] ∨ reference = []) (detector : ADWINDetector F) :
    checkAndScheduleRetrain ksPvalue current reference detector =
      (.error (.valueError "current and reference must not be empty"), detector) := by
  -- Either emptiness is enough for the check.
  have either : (current.isEmpty || reference.isEmpty) = true := by simpa using empty
  rw [checkAndScheduleRetrain, either]
  rfl

/-- The observations of a batch that are fed behind others: those up to the first one over which an
exception is raised, or all of them. -/
def fedOf (maxWindow : Nat) (fed : List F) : List F → List F
  -- The value over which the statistics raise has been added to the window before.
  | [] => []
  | value :: values =>
    value :: match ADWINDetector.drifted ((fed ++ [value]).rtake maxWindow) with
      | .ok _ => fedOf maxWindow (fed ++ [value]) values
      | .error _ => []

/-- The loop leaves a window of the newest of what was fed before and in it. -/
theorem ADWINDetector.Newest.feedValues {maxWindow : Nat} {fed : List F} {detector : ADWINDetector F}
    (newest : detector.Newest maxWindow fed) (triggered : Bool) (current : List F) :
    (Absm.feedValues triggered detector current).2.Newest maxWindow (fed ++ fedOf maxWindow fed current) := by
  induction current generalizing fed detector triggered with
  | nil => rwa [fedOf, List.append_nil]
  | cons value current ih =>
    have next := newest.observe value
    -- Whether the observation raises can be seen from what was fed.
    have answered : detector.addElement value =
        (drifted ((fed ++ [value]).rtake maxWindow), detector.observe value) := by
      rw [← next.window]
      rfl
    rw [Absm.feedValues, answered, fedOf, List.append_cons]
    cases drifted ((fed ++ [value]).rtake maxWindow) with
    | ok signal => exact ih next _
    | error raised =>
      simp only [List.append_nil]
      exact next

/-! ### Histories -/

/-- A call of a detector. -/
inductive DetectorCall (F : Type) where
  /-- The call `add_element`. -/
  | addElement (value : F)
  /-- The call `reset`. -/
  | reset

/-- Answer a call: whether there is a drift, or nothing; or what is raised. -/
def DetectorCall.apply (detector : ADWINDetector F) :
    DetectorCall F → Except PyError (Option Bool) × ADWINDetector F
  -- A reset has no answer.
  | .addElement value => ((detector.addElement value).1.map some, (detector.addElement value).2)
  | .reset => (.ok none, detector.reset)

/-- A call of a detector, or of the scheduler with the detector. -/
inductive SchedulerCall (F : Type) where
  /-- A call of the detector. -/
  | detector (call : DetectorCall F)
  /-- The call `check_and_schedule_retrain`. -/
  | checkAndScheduleRetrain (current reference : List F)

/-- Answer a call, given what `ks_2samp` finds about two samples. -/
def SchedulerCall.apply (ksPvalue : List F → List F → F) (detector : ADWINDetector F) :
    SchedulerCall F → Except PyError (Option Bool) × ADWINDetector F
  -- The scheduler is called with the detector as the calls before have left it.
  | .detector call => call.apply detector
  | .checkAndScheduleRetrain current reference =>
    ((Absm.checkAndScheduleRetrain ksPvalue current reference detector).1.map some,
      (Absm.checkAndScheduleRetrain ksPvalue current reference detector).2)

/-- The answers to some calls, and the detector after them. -/
def answerAll (ksPvalue : List F → List F → F) (detector : ADWINDetector F)
    (history : List (SchedulerCall F)) : List (Except PyError (Option Bool)) × ADWINDetector F :=
  respondAll (SchedulerCall.apply ksPvalue) detector history

/-- The observations that have been fed since the last reset, with those of one more call. -/
def SchedulerCall.feed (maxWindow : Nat) (fed : List F) : SchedulerCall F → List F
  -- A check of an empty sample feeds nothing, and a reset forgets all.
  | .detector (.addElement value) => fed ++ [value]
  | .detector .reset => []
  | .checkAndScheduleRetrain current reference =>
    if current.isEmpty || reference.isEmpty then fed else fed ++ fedOf maxWindow fed current

/-- The observations that have been fed since the last reset. -/
def fedSinceReset (maxWindow : Nat) (history : List (SchedulerCall F)) : List F :=
  -- Before the first call nothing has been fed.
  history.foldl (SchedulerCall.feed maxWindow) []

/-- After a call the window still holds the newest observations. -/
theorem SchedulerCall.apply_newest (ksPvalue : List F → List F → F) {maxWindow : Nat} (fed : List F)
    (detector : ADWINDetector F) (call : SchedulerCall F) (newest : detector.Newest maxWindow fed) :
    (call.apply ksPvalue detector).2.Newest maxWindow (call.feed maxWindow fed) := by
  -- A check of an empty sample feeds nothing, and any other one what its loop reaches.
  cases call with
  | detector call =>
    cases call with
    | addElement value => exact newest.observe value
    | reset => exact newest.reset
  | checkAndScheduleRetrain current reference =>
    by_cases empty : current = [] ∨ reference = []
    · have either : (current.isEmpty || reference.isEmpty) = true := by simpa using empty
      simp only [apply, checkAndScheduleRetrain_empty ksPvalue empty, feed, either, if_true]
      exact newest
    · have both := not_or.mp empty
      have neither : (current.isEmpty || reference.isEmpty) = false := by simp [both]
      simp only [apply, checkAndScheduleRetrain_eq ksPvalue both, feed, neither, Bool.false_eq_true,
        if_false]
      exact newest.feedValues false current

/-- After any calls the window holds the newest observations since the last reset. -/
theorem answerAll_newest (ksPvalue : List F → List F → F) {maxWindow : Nat} {fresh : ADWINDetector F}
    (newest : fresh.Newest maxWindow []) (history : List (SchedulerCall F)) :
    (answerAll ksPvalue fresh history).2.Newest maxWindow (fedSinceReset maxWindow history) :=
  -- Each call keeps the window the newest part of what has been fed.
  respondAll_tracks (SchedulerCall.feed maxWindow) (ADWINDetector.Newest maxWindow)
    (fun fed detector call => SchedulerCall.apply_newest ksPvalue fed detector call) newest history

/-- The window of a detector is the newest observations since its last reset, and the later answers depend
on nothing else. A check feeds all of a batch if no observation raises, and otherwise those up to the first
that does; two batches at once are the one and then the other; and a check of an empty sample leaves the
detector alone. -/
theorem decisions_forgetAndCompose (ksPvalue : List F → List F → F) {maxWindow : Nat}
    (large : 10 ≤ maxWindow) :
    ∃ fresh : ADWINDetector F, ADWINDetector.init maxWindow = .ok fresh ∧
      (∀ history, (answerAll ksPvalue fresh history).2.window =
        (fedSinceReset maxWindow history).rtake maxWindow) ∧
      (∀ first second, (fedSinceReset maxWindow first).rtake maxWindow =
          (fedSinceReset maxWindow second).rtake maxWindow →
        ∀ later, (answerAll ksPvalue (answerAll ksPvalue fresh first).2 later).1 =
          (answerAll ksPvalue (answerAll ksPvalue fresh second).2 later).1) ∧
      ∀ history, let detector := (answerAll ksPvalue fresh history).2
        (∀ current reference (signals : List Bool), current ≠ [] ∧ reference ≠ [] →
          detector.signals current = signals.map .ok →
          checkAndScheduleRetrain ksPvalue current reference detector =
            (.ok (ksPvalue current reference < 0.05 || signals.any id), detector.observeAll current)) ∧
        (∀ before value after reference (signals : List Bool) raised, reference ≠ [] →
          detector.signals before = signals.map .ok →
          ((detector.observeAll before).addElement value).1 = .error raised →
          checkAndScheduleRetrain ksPvalue (before ++ value :: after) reference detector =
            (.error raised, detector.observeAll (before ++ [value]))) ∧
        (∀ first second, feedValues false detector (first ++ second) =
          match feedValues false detector first with
          | (.ok signal, middle) =>
            ((feedValues false middle second).1.map (signal || ·), (feedValues false middle second).2)
          | (.error raised, middle) => (.error raised, middle)) ∧
        ∀ current reference, current = [] ∨ reference = [] →
          checkAndScheduleRetrain ksPvalue current reference detector =
            (.error (.valueError "current and reference must not be empty"), detector) := by
  obtain ⟨fresh, constructed, newest⟩ := ADWINDetector.init_newest (F := F) large
  have windows := fun history => answerAll_newest ksPvalue newest history
  refine ⟨fresh, constructed, fun history => (windows history).window, ?_,
    fun history => ⟨?_, ?_, ?_, ?_⟩⟩
  · intro first second same later
    -- The windows are the same, so the detectors are.
    rw [(windows first).unique (windows second) same]
  · intro current reference signals nonempty answers
    rw [checkAndScheduleRetrain_eq ksPvalue nonempty, feedValues_returns answers]
    rfl
  · intro before value after reference signals raised filled answers raises
    have nonempty : before ++ value :: after ≠ [] ∧ reference ≠ [] := ⟨by simp, filled⟩
    rw [checkAndScheduleRetrain_eq ksPvalue nonempty, feedValues_raises answers raises]
    rfl
  · exact fun first second => feedValues_append _ first second
  · exact fun current reference either => checkAndScheduleRetrain_empty ksPvalue either _

end Calls

/-- A detector with the smallest window keeps the last ten observations since its last reset. -/
theorem decisions_forgetAndCompose_ten :
    ∃ fresh : ADWINDetector (ExtFloat ℚ), ADWINDetector.init (10 : Nat) = .ok fresh ∧
      ∀ history, (answerAll (fun _ _ => .finite 1) fresh history).2.window =
        (fedSinceReset 10 history).rtake 10 := by
  -- The window of ten is the smallest one.
  obtain ⟨fresh, constructed, windows, -⟩ :=
    decisions_forgetAndCompose (fun _ _ : List (ExtFloat ℚ) => .finite 1) (show 10 ≤ 10 from le_rfl)
  exact ⟨fresh, constructed, windows⟩

/-- Of twenty observations that are no numbers, a check feeds ten, since over the tenth one the deviation of
the window raises. -/
theorem decisions_forgetAndCompose_fails :
    ∃ fresh : ADWINDetector (ExtFloat ℚ), ADWINDetector.init 20 = .ok fresh ∧
      (checkAndScheduleRetrain (fun _ _ => .finite 1) (List.replicate 20 .nan) [.finite 0] fresh).1 =
        .error (.attributeError "'float' object has no attribute 'numerator'") ∧
      (checkAndScheduleRetrain (fun _ _ => .finite 1) (List.replicate 20 .nan) [.finite 0] fresh).2.window =
        List.replicate 10 .nan ∧
      List.replicate 10 .nan ≠ (List.replicate 20 (.nan : ExtFloat ℚ)).rtake 20 := by
  -- The detector has room for all twenty, and the ten that are fed are the first ones.
  refine ⟨⟨[], 20, by decide, by decide⟩, rfl, ?_, ?_, ?_⟩
  · decide +kernel
  · decide +kernel
  · decide +kernel

end Absm
