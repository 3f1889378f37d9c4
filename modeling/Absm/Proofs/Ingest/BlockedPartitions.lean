import Absm.Proofs.Ingest.PoisonMessages
import Absm.Proofs.Ingest.Redelivery

/-! A poisonous message blocks what lies behind it in its partition for ever, and nothing else. -/

namespace Absm

variable {F P : Type} {log : TopicLog P} {world : World P F}

/-! ### Behind a poisonous message -/

/-- A poisonous message that no consumer has got past. -/
structure Blocks (world : World P F) (p : P) (poison : Message) : Prop where
  /-- The next consumer starts at the message or before it. -/
  resume : world.resume p ≤ poison.offset
  /-- The running consumer stands there, or is about to deserialize the message. -/
  position : ∀ consumer, world.consumer = some consumer →
    consumer.position p ≤ poison.offset ∨ consumer.phase = .deserializing p poison
  /-- Nothing behind the message has been polled. -/
  polled : ∀ message, (p, message) ∈ world.polled → message.offset ≤ poison.offset

/-- Before the first start nobody has got past any message. -/
theorem blocks_initial (p : P) (poison : Message) : Blocks (World.initial P F) p poison where
  -- Nothing runs and nothing is committed yet.
  resume := Nat.zero_le _
  position := by
    intro consumer runs
    cases runs
  polled := by
    intro message seen
    cases seen

/-- Moving on at the same position gets past nothing when the message was not about to be read. -/
theorem Blocks.goto {p : P} {poison : Message} (blocks : Blocks world p poison) {position : P → Nat}
    {phase : Phase P F} (runs : world.consumer = some ⟨position, phase⟩)
    (elsewhere : phase ≠ .deserializing p poison) (next : Phase P F) :
    Blocks (world.goto position next) p poison where
  -- The position moves only when the poison is not being read.
  resume := blocks.resume
  position := by
    rintro _ ⟨⟩
    exact .inl ((blocks.position _ runs).resolve_right elsewhere)
  polled := blocks.polled

/-- A stop gets past nothing. -/
theorem Blocks.stop {p : P} {poison : Message} (blocks : Blocks world p poison) :
    Blocks world.stop p poison where
  -- Without a consumer only the committed offset matters.
  resume := blocks.resume
  position := by
    intro consumer runs
    cases runs
  polled := blocks.polled

variable [DecidableEq P]

/-- A delivery gets at most to the message itself. -/
theorem Blocks.pollMessage {p : P} {poison : Message} (member : poison ∈ log.messages p)
    (blocks : Blocks world p poison) {position : P → Nat} {other : P} {message : Message}
    (runs : world.consumer = some ⟨position, .polling⟩)
    (next : log.next other (position other) = some message) :
    Blocks
      { world.goto (Function.update position other (message.offset + 1)) (.deserializing other message) with
        polled := world.polled ++ [(other, message)] } p poison := by
  have before : position p ≤ poison.offset := (blocks.position _ runs).resolve_right (by simp)
  by_cases same : other = p
  · subst same
    obtain ⟨_, earlier, later, split, skipped⟩ := List.find?_eq_some_iff_append.mp next
    have sorted := log.increasing other
    rw [split] at member sorted
    -- The message is not before the delivered one, since the consumer stood before it.
    have here : message = poison ∨ message.offset < poison.offset := by
      rcases List.mem_append.mp member with early | late
      · exact absurd (skipped poison early) (by simpa using before)
      · rcases List.mem_cons.mp late with rfl | behind
        · exact .inl rfl
        · exact .inr ((List.pairwise_cons.mp (List.pairwise_append.mp sorted).2.1).1 poison behind)
    refine ⟨blocks.resume, ?_, fun found seen => ?_⟩
    · rintro _ ⟨⟩
      rcases here with rfl | less
      · exact .inr rfl
      · exact .inl (by simpa using less)
    · rcases List.mem_append.mp seen with old | new
      · exact blocks.polled found old
      · obtain rfl : found = message := by simpa using new
        rcases here with rfl | less
        · exact le_rfl
        · exact less.le
  · refine ⟨blocks.resume, ?_, fun found seen => ?_⟩
    · rintro _ ⟨⟩
      exact .inl (by simpa [Function.update_of_ne (Ne.symm same)] using before)
    · rcases List.mem_append.mp seen with old | new
      · exact blocks.polled found old
      · simp [Ne.symm same] at new

variable [JsonFloat F] {runtime : Runtime F}

omit [DecidableEq P] in
/-- What has been read was not the poisonous message. -/
theorem elsewhere_of_read {p q : P} {poison message : Message} {raw : Json F}
    (harmful : Poison runtime poison) (read : deserializeMessage runtime message = .ok raw) :
    (.deserializing q message : Phase P F) ≠ .deserializing p poison := by
  -- A message that has been read is no poison.
  intro same
  cases same
  exact not_poison_of_read read harmful

/-- A commit acknowledges nothing behind the message. -/
theorem Blocks.acknowledge {p : P} {poison : Message} (safe : Safe runtime log world)
    (blocks : Blocks world p poison) {position : P → Nat} {other : P} {message : Message}
    {event : Event F} (runs : world.consumer = some ⟨position, .committing other message event⟩) :
    Blocks (world.acknowledge other message) p poison where
  resume := by
  -- The committed message was read before the poisonous one, so the next start is not behind it.
    have known : position other = message.offset + 1 ∧ _ := safe.knows _ runs
    have before := (blocks.position _ runs).resolve_right (by simp)
    rw [World.resume_acknowledge]
    split
    case isTrue same =>
      subst same
      exact known.1 ▸ before
    case isFalse => exact blocks.resume
  position := blocks.position
  polled := blocks.polled

/-- No step gets past a poisonous message. -/
theorem Blocks.step {p : P} {poison : Message} (member : poison ∈ log.messages p)
    (harmful : Poison runtime poison) (safe : Safe runtime log world) (blocks : Blocks world p poison)
    {next : World P F} {action : Action P} (happens : Happens runtime log world action next) :
    Blocks next p poison := by
  -- Only a delivery moves the position, and reading the message only ends the loop.
  cases happens with
  | start stopped =>
    refine ⟨blocks.resume, ?_, blocks.polled⟩
    rintro _ ⟨⟩
    exact .inl blocks.resume
  | interrupt runs => exact blocks.stop
  | pollNone runs => exact blocks.goto runs (by simp) _
  | pollError runs => exact blocks.goto runs (by simp) _
  | pollMessage runs next => exact blocks.pollMessage member runs next
  | skip runs read => exact blocks.goto runs (elsewhere_of_read harmful read) _
  | deserialize runs read => exact blocks.goto runs (elsewhere_of_read harmful read) _
  | parserRaises runs read => exact blocks.stop
  | drop runs dropped => exact blocks.goto runs (by simp) _
  | normalize runs accepted => exact blocks.goto runs (by simp) _
  | processReturns runs =>
    have moved := blocks.goto runs (by simp) (.polling)
    refine ⟨blocks.resume, ?_, blocks.polled⟩
    rintro _ ⟨⟩
    exact .inl ((moved.position _ rfl).resolve_right (by simp))
  | processRaises runs => exact blocks.stop
  | commitReturns runs => exact (blocks.acknowledge safe runs).goto runs (by simp) _
  | commitLost runs => exact (blocks.acknowledge safe runs).stop
  | commitRefused runs => exact blocks.stop

/-- No run gets past a poisonous message. -/
theorem blocks_of_run {p : P} {poison : Message} (member : poison ∈ log.messages p)
    (harmful : Poison runtime poison) {reached : World P F} {actions : List (Action P)}
    (run : runAll (Absm.step runtime log) (World.initial P F) actions = some reached) :
    Blocks reached p poison :=
  -- The run lemma carries both invariants at once.
  (runAll_invariant (fun state => Safe runtime log state ∧ Blocks state p poison)
    (fun _ _ _ both taken =>
      ⟨both.1.step (happens_of_step taken), both.2.step member harmful both.1 (happens_of_step taken)⟩)
    ⟨safe_initial, blocks_initial p poison⟩ run).2

/-! ### In front of all poisonous messages -/

/-- The log of one partition up to an offset. -/
def TopicLog.upTo (log : TopicLog P) (p : P) (offset : Nat) : TopicLog P where
  -- The other partitions are emptied.
  messages q := if q = p then (log.messages p).filter fun message => message.offset ≤ offset else []
  increasing q := by
    split
    · exact (log.increasing p).filter _
    · exact List.Pairwise.nil

omit [DecidableEq P] in
/-- Messages of a partition differ in their offsets. -/
theorem TopicLog.eq_of_offset {p : P} {first second : Message} (firstIn : first ∈ log.messages p)
    (secondIn : second ∈ log.messages p) (same : first.offset = second.offset) : first = second := by
  -- Offsets increase along a partition, so each names one message.
  have distinct : ((log.messages p).map Message.offset).Nodup :=
    List.pairwise_map.mpr ((log.increasing p).imp Nat.ne_of_lt)
  exact List.inj_on_of_nodup_map distinct firstIn secondIn same

/-- What the shorter log delivers next the log delivers next. -/
theorem TopicLog.next_upTo {p q : P} {offset position : Nat} {message : Message}
    (next : (log.upTo p offset).next q position = some message) : log.next q position = some message := by
  rw [TopicLog.next, upTo] at next
  dsimp only at next
  split at next
  case isFalse => cases next
  case isTrue same =>
    subst same
    rw [List.find?_filter] at next
    obtain ⟨found, earlier, later, split, skipped⟩ := List.find?_eq_some_iff_append.mp next
    simp only [decide_eq_true_eq] at found
    refine List.find?_eq_some_iff_append.mpr ⟨by simpa using found.2, earlier, later, split, ?_⟩
    -- The messages before it are within the shorter log, too.
    intro other early
    have sorted := log.increasing q
    rw [split] at sorted
    have order := (List.pairwise_append.mp sorted).2.2 other early message (.head _)
    have passed := skipped other early
    have within : other.offset ≤ offset := order.le.trans found.1
    simpa [within] using passed

/-- What happens with the shorter log can happen with the log. -/
theorem step_upTo {p : P} {offset : Nat} {next : World P F} {action : Action P}
    (taken : step runtime (log.upTo p offset) world action = some next) :
    step runtime log world action = some next := by
  -- Only a delivery looks at the log.
  cases runs : world.consumer with
  | none => cases action <;> simpa only [step, runs] using taken
  | some consumer =>
    obtain ⟨position, phase⟩ := consumer
    cases phase with
    | polling =>
      cases action with
      | pollMessage q =>
        simp only [step, runs] at taken ⊢
        obtain ⟨message, delivered, rfl⟩ := Option.map_eq_some_iff.mp taken
        rw [TopicLog.next_upTo delivered]
        rfl
      | _ => simpa only [step, runs] using taken
    | _ => cases action <;> simpa only [step, runs] using taken

/-- A run with the shorter log is a run with the log. -/
theorem runAll_upTo {p : P} {offset : Nat} {reached : World P F} {actions : List (Action P)}
    (run : runAll (step runtime (log.upTo p offset)) world actions = some reached) :
    runAll (step runtime log) world actions = some reached := by
  -- A step with the shorter log is a step with the log.
  induction actions generalizing world with
  | nil => exact run
  | cons action actions ih =>
    rw [runAll_cons] at run ⊢
    obtain ⟨next, taken, rest⟩ := Option.bind_eq_some_iff.mp run
    rw [step_upTo taken]
    exact ih rest

/-- A message that carries an event can be handled from everywhere, after a restart, if no poisonous message
lies before it. -/
theorem handled_of_clear {p : P} {message : Message} {event : Event F}
    (safe : Safe runtime log world) (member : message ∈ log.messages p)
    (carries : eventOf runtime message = some event)
    (clear : ∀ poison ∈ log.messages p, poison.offset < message.offset → ¬ Poison runtime poison) :
    ∃ actions later, runAll (step runtime log) world actions = some later ∧
      (p, message, event) ∈ later.processed := by
  -- The consumer is stopped if it runs.
  obtain ⟨stopping, stopped, stop, idle, safeStopped⟩ : ∃ actions stopped,
      runAll (step runtime log) world actions = some stopped ∧ stopped.consumer = none ∧
        Safe runtime log stopped := by
    cases runs : world.consumer with
    | none => exact ⟨[], world, rfl, runs, safe⟩
    | some consumer => exact ⟨[.interrupt], world.stop, by simp [runAll, step, runs], rfl, safe.stop⟩
  by_cases below : message.offset < stopped.resume p
  · exact ⟨stopping, stopped, stop, safeStopped.acked p message member below event carries⟩
  -- The log up to the message has no poison, so that the loop goes through it.
  have clean : ∀ q, ∀ other ∈ (log.upTo p message.offset).messages q,
      stopped.resume q ≤ other.offset → ¬ Poison runtime other := by
    intro q other inside _
    simp only [TopicLog.upTo] at inside
    split at inside
    case isFalse => cases inside
    case isTrue same =>
      subst same
      obtain ⟨listed, within⟩ := List.mem_filter.mp inside
      rcases (of_decide_eq_true within).lt_or_eq with before | same
      · exact clear other listed before
      · obtain rfl := log.eq_of_offset listed member same
        intro harmful
        obtain ⟨error, raised⟩ := poison_iff.mp harmful
        simp [eventOf, raised] at carries
  have keeps := keepsConsuming_of_clean clean
  obtain ⟨later, ⟨actions, _, run⟩, drained⟩ := keeps.progress _ .refl p
  have inside : message ∈ (log.upTo p message.offset).messages p := by
    simp [TopicLog.upTo, member]
  have settled := (keeps.complete later ⟨actions, by assumption, run⟩ p drained message inside
    (not_lt.mp below)).2
  refine ⟨stopping ++ .start :: actions, later, ?_, settled event carries⟩
  rw [runAll_append, stop]
  exact runAll_upTo (by simpa [runAll, step, idle] using run)

/-- In every state that the first start leads to, whatever has crashed and restarted, a message that carries
an event can still be handled, or has been, exactly when no poisonous message lies before it in its
partition; behind a poisonous message nothing is ever polled, and no offset behind it is ever committed. -/
theorem handled_iff_clear {reached : World P F} {actions : List (Action P)}
    (run : runAll (step runtime log) (World.initial P F) actions = some reached) (p : P) :
    (∀ message ∈ log.messages p, ∀ event, eventOf runtime message = some event →
      ((∃ more later, runAll (step runtime log) reached more = some later ∧
          (p, message, event) ∈ later.processed) ↔
        ∀ poison ∈ log.messages p, poison.offset < message.offset → ¬ Poison runtime poison)) ∧
    ∀ poison ∈ log.messages p, Poison runtime poison →
      (∀ message, (p, message) ∈ reached.polled → message.offset ≤ poison.offset) ∧
        ∀ offset, reached.committed p = some offset → offset ≤ poison.offset := by
  constructor
  · intro message member event carries
    constructor
    · rintro ⟨more, later, onward, handled⟩ poison listed before harmful
      -- What is handled was polled, and nothing behind the poison is.
      have whole : runAll (step runtime log) (World.initial P F) (actions ++ more) = some later := by
        rw [runAll_append, run]
        exact onward
      have accounted := (accounted_of_run ⟨safe_initial, accounted_initial⟩ whole).2
      have seen := (accounted.delivered p message event handled).1
      exact absurd ((blocks_of_run listed harmful whole).polled message seen) (not_le.mpr before)
    · exact handled_of_clear (safe_of_run safe_initial run) member carries
  · intro poison listed harmful
    have blocks := blocks_of_run listed harmful run
    refine ⟨blocks.polled, fun offset committed => ?_⟩
    simpa [World.resume, committed] using blocks.resume

/-- The plain message can be handled after a crash in front of its commit. -/
theorem handled_iff_clear_crash : ∃ reached more later,
    runAll (step (plainRuntime (ExtFloat ℚ)) plainLog) (World.initial Unit (ExtFloat ℚ))
      [.start, .pollMessage (), .interrupt] = some reached ∧
    runAll (step (plainRuntime (ExtFloat ℚ)) plainLog) reached more = some later ∧
    ((), ⟨0, some plainPayload.toUTF8⟩, plainEvent (ExtFloat ℚ)) ∈ later.processed := by
  have steps : (runAll (step (plainRuntime (ExtFloat ℚ)) plainLog) (World.initial Unit (ExtFloat ℚ))
      [.start, .pollMessage (), .interrupt]).isSome := by decide +kernel
  obtain ⟨reached, run⟩ := Option.isSome_iff_exists.mp steps
  have carries : eventOf (plainRuntime (ExtFloat ℚ)) ⟨0, some plainPayload.toUTF8⟩ =
      some (plainEvent (ExtFloat ℚ)) := by decide +kernel
  -- No message lies before the first one.
  obtain ⟨more, later, onward, handled⟩ := ((handled_iff_clear run ()).1 ⟨0, some plainPayload.toUTF8⟩
    (List.mem_singleton_self _) _ carries).mpr fun poison _ before => absurd before (Nat.not_lt_zero _)
  exact ⟨reached, more, later, run, onward, handled⟩

end Absm
