import Mathlib.Data.List.Dedup
import Mathlib.Data.List.Sort
import Mathlib.Data.String.Basic
import Absm.Features.PiiScrubber
import Absm.Foundation.Sorting
import Absm.Models.SequenceScorer

/-! Cutting a user's events into sessions, and turning these into token sequences. -/

namespace Absm

variable {F : Type}

/-- The longest pause within a session, in microseconds. -/
def sessionGap : Int :=
  -- Half an hour, in microseconds.
  1800 * 1000000

/-- The token that fills a sequence up. -/
def padIndex : Int := 0

/-- The tokens of the built-in event types. -/
def baseEventIndex : Dict String Int :=
  -- The token zero is left to the padding.
  .ofList [("unknown", 1), ("auth", 2), ("network", 3), ("file", 4)]

/-! ### Tokens -/

/-- The event types of some events that are not built in, each of them once. -/
def unseenTypes (events : List (ScrubbedEvent F)) : List String :=
  -- Each type that has no token is listed once.
  ((events.map (·.eventType)).filter fun eventType => (baseEventIndex.get? eventType).isNone).dedup

/-- Give each of some event types the next token. -/
def extendIndex (index : Dict String Int) (nextIndex : Int) : List String → Dict String Int
  -- One token after the other is given away.
  | [] => index
  | eventType :: unseen => extendIndex (index.set eventType nextIndex) (nextIndex + 1) unseen

/-- The tokens of all event types of some events: the built-in ones, and others in sorted order. -/
def buildEventIndex (events : List (ScrubbedEvent F)) : Dict String Int :=
  -- Unseen types get tokens behind the greatest one, in the order of their names.
  let nextIndex := (baseEventIndex.entries.map Prod.snd).max?.getD 0 + 1
  extendIndex baseEventIndex nextIndex ((unseenTypes events).insertionSort (· ≤ ·))

/-- The token of an event type, with the built-in token of the unknown type as a fallback. -/
def tokenOf (eventIndex : Dict String Int) (eventType : String) : Int :=
  -- The index knows all types of the batch, so the fallback is never needed for these.
  eventIndex.getD eventType (baseEventIndex.getD "unknown" padIndex)

/-- Cut tokens to a length, or fill them up to it. -/
def padOrTruncate (tokens : List Int) (maxLen : Nat) : List Int :=
  -- Padding is added behind the tokens.
  if maxLen ≤ tokens.length then tokens.take maxLen
  else tokens ++ List.replicate (maxLen - tokens.length) padIndex

/-- A padded or truncated list is its first tokens with pads behind them. -/
theorem padOrTruncate_eq (tokens : List Int) (maxLen : Nat) :
    padOrTruncate tokens maxLen =
      tokens.take maxLen ++ List.replicate (maxLen - tokens.length) padIndex := by
  -- When nothing is left to pad, the second part is empty.
  unfold padOrTruncate
  split
  case isTrue long => simp [Nat.sub_eq_zero_of_le long]
  case isFalse short => rw [List.take_of_length_le (not_le.mp short).le]

/-- Padded or truncated tokens have the length that was asked for. -/
@[simp] theorem length_padOrTruncate (tokens : List Int) (maxLen : Nat) :
    (padOrTruncate tokens maxLen).length = maxLen := by
  -- Tokens and padding add up to the length.
  rw [padOrTruncate_eq, List.length_append, List.length_take, List.length_replicate]
  omega

/-! ### Sessions -/

/-- Whether an event has a timestamp before that of another one. -/
def earlier (left right : ScrubbedEvent F) : Bool :=
  -- The difference of the timestamps is what Python compares.
  left.timestamp.later right.timestamp < 0

/-- `sorted` by timestamp, which raises as soon as the two kinds of datetimes meet. -/
def sortedByTimestamp (events : List (ScrubbedEvent F)) : Except PyError (List (ScrubbedEvent F)) :=
  -- Every event is compared with another one, so a mixed list has two that cannot be compared.
  if ∀ left ∈ events, ∀ right ∈ events, left.timestamp.aware = right.timestamp.aware then
    .ok (sorted earlier events)
  else .error (.typeError "can't compare offset-naive and offset-aware datetimes")

/-- What the loop over the events carries along. -/
structure SessionLoop where
  /-- The sessions that have ended. -/
  sessions : List (List Int)
  /-- The tokens of the session that goes on. -/
  current : List Int
  /-- When the last event happened. -/
  lastTime : DateTime

/-- The sessions with the current one put at their end, unless it is empty. -/
def SessionLoop.flushed (loop : SessionLoop) : List (List Int) :=
  -- A session without tokens is not kept.
  if loop.current = [] then loop.sessions else loop.sessions ++ [loop.current]

/-- The loop body: one event ends the current session or goes on with it. -/
def SessionLoop.step (eventIndex : Dict String Int) (loop : SessionLoop) (event : ScrubbedEvent F) :
    Except PyError SessionLoop := do
  -- The pause is measured from the event before, and only a longer one ends the session.
  let pause ← event.timestamp.elapsed loop.lastTime
  let token := tokenOf eventIndex event.eventType
  if sessionGap < pause then return ⟨loop.flushed, [token], event.timestamp⟩
  else return ⟨loop.sessions, loop.current ++ [token], event.timestamp⟩

/-- The token lists of the sessions, before they get a common length. -/
def formSessions (events : List (ScrubbedEvent F)) : Except PyError (List (List Int)) := do
  -- The first event is compared with itself, so it never ends a session.
  let eventIndex := buildEventIndex events
  let ordered ← sortedByTimestamp events
  match ordered with
  | [] => .error (.indexError "list index out of range")
  | first :: _ =>
    let loop ← ordered.foldlM (SessionLoop.step eventIndex) ⟨[], [], first.timestamp⟩
    return loop.flushed

/-- The sessions of some events as token sequences of one length. -/
def buildSessionSequences (events : List (ScrubbedEvent F)) (maxLen : Int) :
    Except PyError TokenBatch :=
  -- Without events there are no rows, whatever the length.
  if maxLen ≤ 0 then .error (.valueError "max_len must be positive")
  else if events = [] then .ok ⟨maxLen.toNat, [], by simp⟩
  else do
    let sessions ← formSessions events
    return ⟨maxLen.toNat, sessions.map (padOrTruncate · maxLen.toNat), by simp⟩

end Absm
