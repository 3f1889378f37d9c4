import Absm.Storage.WriteLoop

/-! Every call of the writer ends, and the table holds the rows of the calls that returned. -/

namespace Absm

variable {F : Type}

/-! ### One round -/

section Round

variable {records : List (Uuid × DateTime × String)} {attempts : Nat → Attempt} {loop : WriteLoop F}

/-- An attempt that stores the rows leaves the loop. -/
theorem WriteLoop.round_stores (ended : attempts loop.executions = .stores) :
    loop.round records attempts = { loop with
      executions := loop.executions + 1
      table := loop.table ++ records.map insertRow
      outcome := some (.ok ()) } := by
  -- The first branch of the round.
  rw [WriteLoop.round, ended]

/-- An error that is not caught leaves the loop. -/
theorem WriteLoop.round_other {error : PyError}
    (ended : attempts loop.executions = .fails (.other error)) :
    loop.round records attempts = { loop with
      executions := loop.executions + 1
      outcome := some (.error (.other error)) } := by
  -- The error leaves the loop at once.
  rw [WriteLoop.round, ended]

/-- The third error of the database leaves the loop. -/
theorem WriteLoop.round_third {message : String}
    (ended : attempts loop.executions = .fails (.postgresError message))
    (third : 3 ≤ loop.attempt + 1) :
    loop.round records attempts = { loop with
      attempt := loop.attempt + 1
      executions := loop.executions + 1
      outcome := some (.error (.postgresError message)) } := by
  -- The third failure is raised.
  rw [WriteLoop.round, ended]
  exact if_pos third

/-- After an earlier error of the database the loop waits and goes on. -/
theorem WriteLoop.round_again {message : String}
    (ended : attempts loop.executions = .fails (.postgresError message))
    (third : ¬3 ≤ loop.attempt + 1) :
    loop.round records attempts = { loop with
      attempt := loop.attempt + 1
      executions := loop.executions + 1
      slept := loop.slept ++ [loop.delay]
      delay := loop.delay * 2 } := by
  -- The delay doubles for the next time.
  rw [WriteLoop.round, ended]
  exact if_neg third

end Round

/-! ### One call -/

/-- What holds of the loop at each of its rounds, for the rows of a call and a table before it. -/
def WriteLoop.Consistent (attempts : Nat → Attempt) (table rows : List (StoredRow F))
    (loop : WriteLoop F) : Prop :=
  match loop.outcome with
  -- While the loop runs, every attempt has failed and nothing is stored.
  | none => loop.table = table ∧ loop.executions = loop.attempt ∧ loop.attempt < 3
  | some (.ok ()) => loop.table = table ++ rows ∧ loop.executions ≤ 3 ∧
      ∃ last, loop.executions = last + 1 ∧ attempts last = .stores
  | some (.error error) => loop.table = table ∧ loop.executions ≤ 3 ∧
      ∃ last, loop.executions = last + 1 ∧ attempts last = .fails error

/-- A round keeps the loop consistent. -/
theorem WriteLoop.Consistent.round {attempts : Nat → Attempt} {table : List (StoredRow F)}
    {records : List (Uuid × DateTime × String)} {loop : WriteLoop F} (running : loop.left = false)
    (consistent : loop.Consistent attempts table (records.map insertRow)) :
    (loop.round records attempts).Consistent attempts table (records.map insertRow) := by
  have none : loop.outcome = none := by simpa [WriteLoop.left] using running
  simp only [WriteLoop.Consistent, none] at consistent
  obtain ⟨same, counted, few⟩ := consistent
  -- The three ends of the attempt, and for errors of the database whether it is the third one.
  cases ended : attempts loop.executions with
  | stores =>
    rw [WriteLoop.round_stores ended, WriteLoop.Consistent]
    exact ⟨by rw [same], by simp only; omega, loop.executions, rfl, ended⟩
  | fails error =>
    cases error with
    | other error =>
      rw [WriteLoop.round_other ended, WriteLoop.Consistent]
      exact ⟨same, by simp only; omega, loop.executions, rfl, ended⟩
    | postgresError message =>
      by_cases third : 3 ≤ loop.attempt + 1
      · rw [WriteLoop.round_third ended third, WriteLoop.Consistent]
        exact ⟨same, by simp only; omega, loop.executions, rfl, ended⟩
      · rw [WriteLoop.round_again ended third]
        simp only [WriteLoop.Consistent, none]
        exact ⟨same, by omega, by omega⟩

/-- The loop ends within three rounds. -/
theorem WriteLoop.ends (records : List (Uuid × DateTime × String)) (attempts : Nat → Attempt)
    (table : List (StoredRow F)) :
    ∃ count final, LoopEnds (WriteLoop.round records attempts) WriteLoop.left count
      (WriteLoop.start table) final ∧ count ≤ 3 := by
  -- Each round that does not leave the loop counts one more error, and the third error leaves it.
  refine ends_of_measure
    (fun loop : WriteLoop F => if loop.left then 0 else (2 - loop.attempt) + 1) ?_ _
  intro loop running
  simp only [running, Bool.false_eq_true, if_false]
  cases ended : attempts loop.executions with
  | stores =>
    rw [WriteLoop.round_stores ended]
    exact Nat.succ_pos _
  | fails error =>
    cases error with
    | other error =>
      rw [WriteLoop.round_other ended]
      exact Nat.succ_pos _
    | postgresError message =>
      by_cases third : 3 ≤ loop.attempt + 1
      · rw [WriteLoop.round_third ended third]
        exact Nat.succ_pos _
      · rw [WriteLoop.round_again ended third]
        have still : loop.outcome.isSome = false := running
        simp only [WriteLoop.left, still, Bool.false_eq_true, if_false]
        omega

/-- Every call comes to an end. -/
theorem writes_total (table : List (StoredRow F)) (call : WriteCall F) :
    ∃ answer final, Writes table call answer final := by
  -- Either there is nothing to write or the loop ends.
  by_cases nothing : call.events = []
  · exact ⟨_, _, .empty nothing⟩
  · obtain ⟨count, final, ends, _⟩ := WriteLoop.ends call.records call.attempts table
    obtain ⟨outcome, leaves⟩ := Option.isSome_iff_exists.mp
      (ends.invariant (fun _ => True) (fun _ _ _ => trivial) trivial).2
    exact ⟨_, _, .loop nothing ends leaves⟩

/-- A call comes to one end only. -/
theorem Writes.unique {table final last : List (StoredRow F)} {call : WriteCall F}
    {answer other : WriteAnswer} (first : Writes table call answer final)
    (second : Writes table call other last) : answer = other ∧ final = last := by
  -- Loops that start alike end alike.
  cases first with
  | empty nothing =>
    cases second with
    | empty => exact ⟨rfl, rfl⟩
    | loop something => exact absurd nothing something
  | loop something ends leaves =>
    cases second with
    | empty nothing => exact absurd nothing something
    | loop _ ends' leaves' =>
      obtain ⟨-, rfl⟩ := ends.unique ends'
      obtain rfl := Option.some.inj (leaves.symm.trans leaves')
      exact ⟨rfl, rfl⟩

/-- Whether a call returned. -/
def WriteAnswer.returned (answer : WriteAnswer) : Bool :=
  -- Returned, not raised.
  answer.outcome.isOk

/-- A call makes three attempts at most, stores its rows if it returns and nothing if it raises. It returns
when its last attempt stores, or without an attempt if there is nothing to store, and raises the error of its
last attempt. -/
theorem Writes.accounts {table final : List (StoredRow F)} {call : WriteCall F}
    {answer : WriteAnswer} (writes : Writes table call answer final) :
    answer.executions ≤ 3 ∧ final = table ++ (if answer.returned then call.rows else []) ∧
      (answer.outcome = .ok () → call.events ≠ [] →
        ∃ last, answer.executions = last + 1 ∧ call.attempts last = .stores) ∧
      ∀ error, answer.outcome = .error error →
        ∃ last, answer.executions = last + 1 ∧ call.attempts last = .fails error := by
  -- The accounts are the loop's invariant at its end.
  cases writes with
  | empty nothing => simp [WriteAnswer.returned, WriteCall.rows, WriteCall.records, nothing]
  | @loop _ final outcome something ends leaves =>
    have consistent := (ends.invariant
      (WriteLoop.Consistent call.attempts table (call.records.map insertRow))
      (fun _ running held => held.round running)
      (by simp [WriteLoop.Consistent, WriteLoop.start])).1
    rw [WriteLoop.Consistent, leaves] at consistent
    cases outcome with
    | ok _ => exact ⟨consistent.2.1, consistent.1, fun _ _ => consistent.2.2, by simp⟩
    | error error =>
      refine ⟨consistent.2.1, by rw [consistent.1]; exact (List.append_nil table).symm, by simp, ?_⟩
      intro raised same
      obtain rfl : error = raised := Except.error.inj same
      exact consistent.2.2

/-! ### Many calls -/

/-- Calls that are made one after another all come to an end. -/
theorem writesAll_total (calls : List (WriteCall F)) (table : List (StoredRow F)) :
    ∃ history final, history.map Prod.fst = calls ∧ WritesAll table history final := by
  -- The next call starts on the table that the one before has left.
  induction calls generalizing table with
  | nil => exact ⟨[], table, rfl, .nil⟩
  | cons call calls ih =>
    obtain ⟨answer, middle, first⟩ := writes_total table call
    obtain ⟨history, final, made, rest⟩ := ih middle
    exact ⟨(call, answer) :: history, final, by rw [List.map_cons, made], .cons first rest⟩

/-- The same calls on the same table come to the same end. -/
theorem WritesAll.unique {table final last : List (StoredRow F)}
    {history other : List (WriteCall F × WriteAnswer)} (first : WritesAll table history final)
    (second : WritesAll table other last) (same : other.map Prod.fst = history.map Prod.fst) :
    other = history ∧ last = final := by
  -- The induction is on the first history, call by call.
  induction first generalizing other with
  | nil =>
    obtain rfl := List.map_eq_nil_iff.mp same
    cases second
    exact ⟨rfl, rfl⟩
  | cons writes rest ih =>
    cases second with
    | nil => simp at same
    | cons writes' rest' =>
      obtain ⟨rfl, calls⟩ := List.cons.inj same
      obtain ⟨rfl, rfl⟩ := writes.unique writes'
      obtain ⟨rfl, rfl⟩ := ih rest' calls
      exact ⟨rfl, rfl⟩

/-- The rows of a call hold user, time and type of its events, one row for each. -/
theorem WriteCall.rows_eq (call : WriteCall F) :
    call.rows = call.events.map fun event =>
      ⟨event.userId, event.timestamp, event.eventType.text, none, none, none, none⟩ := by
  -- A record becomes one row, and an event one record.
  rw [WriteCall.rows, WriteCall.records, List.map_map]
  rfl

/-- Behind the rows of the start, the table holds the rows of the calls that returned. -/
theorem WritesAll.table_eq {table final : List (StoredRow F)}
    {history : List (WriteCall F × WriteAnswer)} (writes : WritesAll table history final) :
    final = table ++ (history.filter (·.2.returned)).flatMap (·.1.rows) := by
  -- Each call that returned has added its rows behind those of the calls before it.
  induction writes with
  | nil => simp
  | cons first _ ih =>
    rw [ih, first.accounts.2.1, List.append_assoc, List.filter_cons]
    split <;> simp

/-- Each entry of a history is a call that was made on some table. -/
theorem WritesAll.writes_of_mem {table final : List (StoredRow F)}
    {history : List (WriteCall F × WriteAnswer)} (writes : WritesAll table history final)
    {entry : WriteCall F × WriteAnswer} (mem : entry ∈ history) :
    ∃ before after, Writes before entry.1 entry.2 after := by
  -- Some step of the history made the entry.
  induction writes with
  | nil => simp at mem
  | cons first _ ih =>
    obtain rfl | later := List.mem_cons.mp mem
    · exact ⟨_, _, first⟩
    · exact ih later

/-- Calls of the writer, whatever their attempts come to, all end after three attempts at most. The
table then holds its rows of before, and behind them a row with user, time and type of each event of the
calls that returned, in order. A call with events that returned has stored them in its last attempt, and a
call that raised has raised the error of its last attempt. -/
theorem writesAll_accounts (table : List (StoredRow F)) (calls : List (WriteCall F)) :
    ∃ history final, history.map Prod.fst = calls ∧ WritesAll table history final ∧
      (∀ other last, other.map Prod.fst = calls → WritesAll table other last →
        other = history ∧ last = final) ∧
      final = table ++ (history.filter (·.2.returned)).flatMap (fun entry =>
        entry.1.events.map fun event =>
          ⟨event.userId, event.timestamp, event.eventType.text, none, none, none, none⟩) ∧
      ∀ entry ∈ history, entry.2.executions ≤ 3 ∧
        (entry.2.outcome = .ok () → entry.1.events ≠ [] →
          ∃ last, entry.2.executions = last + 1 ∧ entry.1.attempts last = .stores) ∧
        ∀ error, entry.2.outcome = .error error →
          ∃ last, entry.2.executions = last + 1 ∧ entry.1.attempts last = .fails error := by
  -- There is one history of the calls, and each of its entries keeps its own accounts.
  obtain ⟨history, final, made, writes⟩ := writesAll_total calls table
  have stored := writes.table_eq
  simp only [WriteCall.rows_eq] at stored
  refine ⟨history, final, made, writes, ?_, stored, ?_⟩
  · intro other last asked writes'
    exact writes.unique writes' (asked.trans made.symm)
  · intro entry mem
    obtain ⟨before, after, call⟩ := writes.writes_of_mem mem
    exact ⟨call.accounts.1, call.accounts.2.2⟩

/-! ### The bounded recursion -/

/-- An attempt without the message of the database. -/
def Attempt.insertOutcome : Attempt → InsertOutcome
  -- The message of the driver's error plays no part.
  | .stores => .stores
  | .fails (.postgresError _) => .postgresError
  | .fails (.other error) => .raises error

/-- An error without the message of the database. -/
def AttemptError.pyError : AttemptError → PyError
  -- The driver's own error stands for an `OSError` here.
  | .postgresError _ => .osError
  | .other error => error

/-- The recursion over the attempts that are left does what the loop does. -/
theorem attemptInsert_of_ends {records : List (Uuid × DateTime × String)}
    {attempts : Nat → Attempt} {count : Nat} {loop final : WriteLoop F}
    {outcome : Except AttemptError Unit}
    (ends : LoopEnds (WriteLoop.round records attempts) WriteLoop.left count loop final)
    (running : loop.left = false) (counted : loop.executions = loop.attempt)
    (few : loop.attempt < 3) (leaves : final.outcome = some outcome) :
    attemptInsert records (fun attempt => (attempts attempt).insertOutcome) loop.table
        (2 - loop.attempt) loop.attempt loop.delay loop.slept =
      ⟨outcome.mapError AttemptError.pyError, final.table, final.slept⟩ := by
  -- Only an error of the database before the third one keeps both going.
  induction ends with
  | done finished => simp [running] at finished
  | @next count loop final _ rest ih =>
    rw [attemptInsert.eq_def, ← counted]
    cases ended : attempts loop.executions with
    | stores =>
      rw [WriteLoop.round_stores ended] at rest
      obtain ⟨-, rfl⟩ := rest.unique (.done rfl)
      obtain rfl := Option.some.inj leaves
      simp only [ended, Attempt.insertOutcome]
      rfl
    | fails error =>
      cases error with
      | other error =>
        rw [WriteLoop.round_other ended] at rest
        obtain ⟨-, rfl⟩ := rest.unique (.done rfl)
        obtain rfl := Option.some.inj leaves
        simp only [ended, Attempt.insertOutcome]
        rfl
      | postgresError message =>
        by_cases third : 3 ≤ loop.attempt + 1
        · rw [WriteLoop.round_third ended third] at rest
          obtain ⟨-, rfl⟩ := rest.unique (.done rfl)
          obtain rfl := Option.some.inj leaves
          have last : 2 - loop.executions = 0 := by omega
          simp only [last, ended, Attempt.insertOutcome]
          rfl
        · rw [WriteLoop.round_again ended third] at ih
          have next := ih running (congrArg (· + 1) counted) (by simp only; omega) leaves
          have more : 2 - loop.executions = 2 - (loop.attempt + 1) + 1 := by omega
          simp only [more, ended]
          rw [counted]
          exact next

/-- A call comes to what the bounded recursion computes. -/
theorem Writes.writeBatch_eq {table final : List (StoredRow F)} {call : WriteCall F}
    {answer : WriteAnswer} (writes : Writes table call answer final) :
    (writeBatch call.events (fun attempt => (call.attempts attempt).insertOutcome) table).outcome =
        answer.outcome.mapError AttemptError.pyError ∧
      (writeBatch call.events (fun attempt => (call.attempts attempt).insertOutcome) table).table =
        final := by
  -- The relation and the function go through the same rounds.
  cases writes with
  | empty nothing => simp [writeBatch, nothing, Except.mapError]
  | loop something ends leaves =>
    have same := attemptInsert_of_ends ends rfl rfl (Nat.zero_lt_succ 2) leaves
    rw [writeBatch, if_neg something]
    exact ⟨congrArg WriteResult.outcome same, congrArg WriteResult.table same⟩

end Absm
