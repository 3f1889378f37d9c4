import Absm.Proofs.Alerts.DeadLetters
import Absm.Proofs.Foundation.JsonLines

/-! What can be read of the dead letters after some of the writes have failed halfway. -/

namespace Absm

/-- An alert that was given up, when, and why. -/
structure DeadLetter (K : Type) where
  /-- The alert. -/
  alert : Alert K
  /-- The time, as a text. -/
  failedAt : String
  /-- The text of the last exception. -/
  reason : String

variable {K : Type} [FloatRepr K]

/-- How dead letters are written and read. -/
def letterRows (K : Type) [FloatRepr K] : RowFormat K (DeadLetter K) (Alert K) where
  -- A row is the payload of a dead letter, and what is read of it is the alert.
  members letter := [("alert_id", .str (uuidText letter.alert.alertId)),
    ("severity", .str letter.alert.severity.text), ("mitre_tactic", .str letter.alert.mitreTactic),
    ("recommended_actions", .array (letter.alert.recommendedActions.map .str)),
    ("explanation", letter.alert.explanation.asdict), ("peer_context", letter.alert.peerContext.asdict),
    ("failed_at", .str letter.failedAt), ("reason", .str letter.reason)]
  depth := 4
  row letter := .of_key (c := 'a') rfl (by decide) fun room =>
    printable_payload room letter.alert letter.failedAt letter.reason
  value := DeadLetter.alert
  ofDocument := readAlert
  ofDocument_members letter := readAlert_payload letter.alert letter.failedAt letter.reason

/-- Whether a character ends a line of an open file. -/
def isNewline (c : Char) : Bool :=
  -- Only the newline ends a line, as when a file is read line by line.
  c = '\n'

/-- Printable ASCII does not. -/
theorem isNewline_of_visible (c : Char) (visible : Visible c) : isNewline c = false := by
  -- The newline is no printable character.
  rw [isNewline, decide_eq_false_iff_not]
  rintro rfl
  exact absurd visible (by decide)

/-- The lines of the file. -/
def letterLines (K : Type) [FloatRepr K] (room : Nat) : LineFormat Char (DeadLetter K) (Alert K) :=
  -- The lines are those of rows that are read one by one.
  (letterRows K).lines room isNewline rfl isNewline_of_visible

/-- Read an alert out of a line. -/
def readLetter (room : Nat) (line : List Char) : Option (Alert K) :=
  -- A line that is no JSON is skipped like one that is no alert.
  match (loads room line : Except LoadsError (Json K)) with
  | .ok document => readAlert document
  | .error _ => none

/-- The alerts that can be read from a file, leaving out the lines that cannot. -/
def readableAlerts (room : Nat) (file : List Char) : List (Alert K) :=
  (linesOf isNewline file).filterMap (readLetter room)

/-- The dead letter that a call has to write, if no attempt returns. -/
def DispatchCall.deadLetter (call : DispatchCall K) : Option (DeadLetter K) :=
  -- Which attempt raised first does not matter, only that all three did.
  match call.deliver 1, call.deliver 2, call.deliver 3 with
  | .raises _, .raises _, .raises last => some ⟨call.alert, call.failedAt, last⟩
  | _, _, _ => none

/-- What a call writes: a dead letter whose line reaches the file up to the fault. -/
def DispatchCall.write (call : DispatchCall K) (reached : Nat) : Option (LogWrite (DeadLetter K)) :=
  -- Without a fault the whole line is written.
  call.deadLetter.map fun letter =>
    ⟨letter, if call.fault = none then (deadLetterLine letter.alert letter.failedAt letter.reason).length
      else reached⟩

/-- What some calls write. -/
def letterWrites (calls : List (DispatchCall K × Nat)) : List (LogWrite (DeadLetter K)) :=
  -- Alerts that were delivered write nothing.
  calls.filterMap fun call => call.1.write call.2

/-- A dispatch that returns though no attempt returned. -/
def Dispatched.gaveUp (dispatched : Dispatched) : Bool :=
  -- The call has returned although no attempt has.
  dispatched.outcome.isOk && !dispatched.attempts.contains .returns

/-- The line of a call is that of its dead letter. -/
theorem letter_eq (call : DispatchCall K) :
    call.letter = call.deadLetter.map fun letter => deadLetterLine letter.alert letter.failedAt letter.reason := by
  -- Both look at the same three attempts.
  unfold DispatchCall.letter DispatchCall.deadLetter
  cases call.deliver 1 <;> cases call.deliver 2 <;> cases call.deliver 3 <;> rfl

/-- What the first call writes comes first. -/
theorem letterWrites_cons (call : DispatchCall K) (reached : Nat) (calls : List (DispatchCall K × Nat)) :
    letterWrites ((call, reached) :: calls) = (call.write reached).toList ++ letterWrites calls := by
  -- The first call writes once or not at all.
  rw [letterWrites, List.filterMap_cons]
  cases call.write reached <;> rfl

/-- What reaches the file of a dead letter is the beginning of its line. -/
theorem file_letter (room : Nat) (letter : DeadLetter K) (reached : Nat) :
    (letterLines K room).file [⟨letter, reached⟩] =
      (deadLetterLine letter.alert letter.failedAt letter.reason).take reached :=
  -- There is one write, and it is cut off.
  List.flatMap_singleton ..

/-- A call puts what it writes behind what the file holds. -/
theorem dispatchFaulty_file (room : Nat) (call : DispatchCall K) (reached : Nat) (file : List Char) :
    (dispatchFaulty call reached file).file =
      file ++ (letterLines K room).file (call.write reached).toList := by
  cases fault : call.fault with
  | none =>
    rw [dispatchFaulty, fault]
    dsimp only
    rw [dispatch_file fault, letter_eq, DispatchCall.write, fault]
    cases call.deadLetter with
    | none => rfl
    | some letter =>
      simp only [Option.map_some, if_true, Option.toList_some, file_letter, List.take_length, Option.getD_some]
  | some error =>
    -- The call would append its line, and what has reached the file is the beginning of it.
    have whole : (dispatch { call with fault := none } file).file = file ++ call.letter.getD [] :=
      dispatch_file rfl file
    rw [dispatchFaulty, fault]
    dsimp only
    rw [whole, List.drop_left, letter_eq, DispatchCall.write, fault]
    cases call.deadLetter with
    | none => simp [LineFormat.file]
    | some letter =>
      simp only [Option.map_some, reduceCtorEq, if_false, Option.toList_some, file_letter, Option.getD_some]

/-- A call that gives its alert up and returns has a dead letter to write, and writing works. -/
theorem gaveUp_dispatchFaulty {call : DispatchCall K} {reached : Nat} {file : List Char}
    (gaveUp : (dispatchFaulty call reached file).gaveUp = true) :
    call.fault = none ∧ ∃ letter, call.deadLetter = some letter := by
  cases fault : call.fault with
  | none =>
    refine ⟨rfl, ?_⟩
    rw [dispatchFaulty, fault] at gaveUp
    dsimp only at gaveUp
    rw [dispatch_eq fault] at gaveUp
    rw [DispatchCall.deadLetter]
    -- Unless three attempts fail, one of them returns.
    cases first : call.deliver 1 <;> cases second : call.deliver 2 <;> cases third : call.deliver 3 <;>
      simp [first, second, third, Dispatched.gaveUp] at gaveUp ⊢
  | some error =>
    -- The third failure raises.
    rw [dispatchFaulty, fault] at gaveUp
    cases first : call.deliver 1 <;> cases second : call.deliver 2 <;> cases third : call.deliver 3 <;>
      simp [dispatch, maxAttempts, attemptDelivery, writeDeadLetter, fault, first, second, third,
        Dispatched.gaveUp, Except.isOk, Except.toBool] at gaveUp

/-- A call that gives its alert up and returns has written the whole line. -/
theorem countP_gaveUp_le_one (room : Nat) (call : DispatchCall K) (reached : Nat) (file : List Char) :
    [dispatchFaulty call reached file].countP Dispatched.gaveUp ≤
      (call.write reached).toList.countP ((letterLines K room).Complete ·) := by
  -- A call that gives up without an exception has not met a fault of the file.
  by_cases gaveUp : (dispatchFaulty call reached file).gaveUp = true
  · obtain ⟨works, letter, written⟩ := gaveUp_dispatchFaulty gaveUp
    have complete : (letterLines K room).Complete
        ⟨letter, (deadLetterLine letter.alert letter.failedAt letter.reason).length⟩ := by
      rw [deadLetterLine, List.length_append]
      exact Nat.lt_succ_self _
    simp [DispatchCall.write, written, works, complete, gaveUp]
  · simp [gaveUp]

/-- Behind what it held, the file holds what the calls have written. -/
theorem dispatchAllFaulty_file (room : Nat) (calls : List (DispatchCall K × Nat)) (file : List Char) :
    (dispatchAllFaulty calls file).2 = file ++ (letterLines K room).file (letterWrites calls) := by
  -- The calls that follow go on with the file that the first one leaves.
  induction calls generalizing file with
  | nil => exact (List.append_nil _).symm
  | cons call calls ih =>
    obtain ⟨call, reached⟩ := call
    simp only [dispatchAllFaulty]
    rw [ih, dispatchFaulty_file room, List.append_assoc, letterWrites_cons, LineFormat.file,
      LineFormat.file, ← List.flatMap_append, ← LineFormat.file]

/-- The calls that give alerts up and return have written whole lines. -/
theorem countP_gaveUp_le (room : Nat) (calls : List (DispatchCall K × Nat)) (file : List Char) :
    (dispatchAllFaulty calls file).1.countP Dispatched.gaveUp ≤
      (letterWrites calls).countP ((letterLines K room).Complete ·) := by
  -- The bound holds of the first call and of those that follow.
  induction calls generalizing file with
  | nil => exact Nat.zero_le _
  | cons call calls ih =>
    obtain ⟨call, reached⟩ := call
    simp only [dispatchAllFaulty]
    rw [letterWrites_cons, List.countP_append, ← List.singleton_append, List.countP_append]
    exact Nat.add_le_add (countP_gaveUp_le_one room call reached file) (ih _)

/-- Alerts that are dispatched in turn, from no dead letters on, when writing dead letters may fail halfway:
the alerts that can be read are those whose writes are not lost, they are in the order of the calls, and each
torn write costs at most one alert that was given up without an exception. -/
structure LettersAccounted (K : Type) [FloatRepr K] (room : Nat) (calls : List (DispatchCall K × Nat)) : Prop where
  /-- An alert is read if its line is whole and not begun by another write. -/
  readable : readableAlerts (room + 4) (dispatchAllFaulty calls []).2 =
    (letterLines K room).kept false (letterWrites calls)
  /-- Only alerts that were not delivered are read, and no write is read twice. -/
  ordered : (readableAlerts (room + 4) (dispatchAllFaulty calls []).2 : List (Alert K)).Sublist
    ((letterWrites calls).map fun write => write.entry.alert)
  /-- The losses are bounded. -/
  bounded : (dispatchAllFaulty calls []).1.countP Dispatched.gaveUp ≤
    (readableAlerts (room + 4) (dispatchAllFaulty calls []).2 : List (Alert K)).length +
      (letterWrites calls).countP ((letterLines K room).Torn ·)

/-- However writes fail, at most one alert that was given up is lost for each torn write. -/
theorem dispatchAllFaulty_accounted (room : Nat) (calls : List (DispatchCall K × Nat)) :
    LettersAccounted K room calls := by
  -- The file is that of the writes, and the library says what is read from it.
  have readable : readableAlerts (room + 4) (dispatchAllFaulty calls []).2 =
      (letterLines K room).kept false (letterWrites calls) := by
    rw [readableAlerts, dispatchAllFaulty_file room, List.nil_append]
    exact LineFormat.read_file (letterLines K room) (letterWrites calls)
  refine ⟨readable, ?_, ?_⟩
  · rw [readable]
    exact LineFormat.kept_sublist false _
  · rw [readable]
    exact (countP_gaveUp_le room calls []).trans (LineFormat.countP_complete_le false _)

end Absm
