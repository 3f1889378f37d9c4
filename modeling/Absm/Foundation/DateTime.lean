import Absm.Foundation.Python

/-! The datetimes of Python: naive ones, ones with a fixed offset and ones in a time zone. -/

namespace Absm

/-- One hour, in microseconds. -/
def hourMicros : Int := 3600000000

/-- One day, in microseconds. -/
def dayMicros : Int := 86400000000

/-- The microseconds between the start of year 1 and the end of year 9999. -/
def endOfTime : Int := 3652059 * dayMicros

/-! ### Offsets -/

/-- How far a wall clock is ahead of UTC, in microseconds: by less than a day. -/
abbrev UtcOffset := { ahead : Int // -dayMicros < ahead ∧ ahead < dayMicros }

/-- One hour ahead. -/
def hourAhead : UtcOffset := ⟨hourMicros, by decide⟩

/-- A time zone as `zoneinfo` reads it. -/
structure Zone where
  /-- The key, such as the name of a city. -/
  key : String
  /-- The offset before the first change. -/
  start : UtcOffset
  /-- When the offset changes, in microseconds since the start of year 1 in UTC, and to what. -/
  changes : List (Int × UtcOffset)
  deriving DecidableEq

/-- The offset after the changes that a wall clock has passed. -/
def offsetAfter (wall : Int) (fold : Bool) (ahead : UtcOffset) : List (Int × UtcOffset) → UtcOffset
  | [] => ahead
  | (instant, next) :: changes =>
    -- An hour that is shown twice belongs to the old offset at first, and with `fold` to the new one.
    let passed := instant + if fold then min ahead.val next.val else max ahead.val next.val
    if passed ≤ wall then offsetAfter wall fold next changes else ahead

/-- The method `utcoffset` of a time zone, for what a wall clock in it shows. -/
def Zone.utcoffset (zone : Zone) (wall : Int) (fold : Bool) : UtcOffset :=
  -- The changes are looked through from the first one on.
  offsetAfter wall fold zone.start zone.changes

/-- The attribute `tzinfo` of a datetime; `fold` matters in a time zone only. -/
inductive TzInfo where
  /-- There is none. -/
  | naive
  /-- An offset that is always the same. -/
  | fixed (ahead : UtcOffset)
  /-- The one object of a time zone. -/
  | zone (rules : Zone) (fold : Bool)
  deriving DecidableEq

namespace TzInfo

/-- The object `timezone.utc`. -/
def utc : TzInfo := .fixed ⟨0, by decide⟩

/-- The offset at what the wall clock shows. -/
def utcoffset (wall : Int) : TzInfo → Option UtcOffset
  -- Only in a time zone does the wall clock matter.
  | naive => none
  | fixed ahead => some ahead
  | zone rules fold => some (rules.utcoffset wall fold)

/-- Whether two datetimes have the same `tzinfo`. -/
def same : TzInfo → TzInfo → Bool
  -- Whether equal offsets are one object makes no difference to what is computed from them.
  | naive, naive => true
  | fixed first, fixed second => first = second
  | zone first _, zone second _ => first = second
  | _, _ => false

/-- The same with the first reading of an hour that is shown twice. -/
def unfolded : TzInfo → TzInfo
  -- Arithmetic on datetimes forgets the fold.
  | zone rules _ => zone rules false
  | other => other

/-- The offset is the same at all times. -/
def Constant : TzInfo → Prop
  -- Of a time zone nothing is assumed, even if it has no changes.
  | zone _ _ => False
  | _ => True

instance : DecidablePred Constant
  | naive => isTrue trivial
  | fixed _ => isTrue trivial
  | zone _ _ => isFalse id

@[simp] theorem same_self (tzinfo : TzInfo) : tzinfo.same tzinfo = true := by
  -- In each case it is the same offset or the same zone.
  cases tzinfo <;> simp [same]

/-- The order of the two does not matter. -/
theorem same_comm (first second : TzInfo) : first.same second = second.same first := by
  -- Objects of one sort are compared by what they consist of.
  cases first <;> cases second <;> simp [same, eq_comm]

/-- The objects of three datetimes are one when those of two pairs are. -/
theorem same_trans {first second third : TzInfo} (left : first.same second = true)
    (right : second.same third = true) : first.same third = true := by
  -- Different sorts are never the same.
  cases first <;> cases second <;> cases third <;> simp_all [same]

@[simp] theorem same_unfolded (tzinfo : TzInfo) : tzinfo.unfolded.same tzinfo = true := by
  -- The fold is not looked at.
  cases tzinfo <;> simp [unfolded, same]

end TzInfo

/-! ### Datetimes -/

/-- A datetime. -/
structure DateTime where
  /-- What the wall clock shows, in microseconds since the start of year 1. -/
  micros : Int
  /-- The time zone or the offset of the wall clock. -/
  tzinfo : TzInfo
  /-- The wall clock shows a year between 1 and 9999. -/
  inRange : 0 ≤ micros ∧ micros < endOfTime
  deriving DecidableEq

namespace DateTime

/-- The hour that the wall clock shows. -/
def hour (time : DateTime) : Int :=
  -- The wall clock counts, not the instant.
  time.micros / hourMicros % 24

/-- The datetime in UTC that is some microseconds after the start of year 1. -/
def utc (micros : Int) (inRange : 0 ≤ micros ∧ micros < endOfTime) : DateTime :=
  ⟨micros, .utc, inRange⟩

/-- The start of 1970. -/
def epoch : DateTime := utc (719162 * dayMicros) (by decide)

/-- The start of year 1. -/
def yearOne : DateTime := utc 0 (by decide)

/-- How far the wall clock is ahead of UTC, in microseconds; none for a naive datetime. -/
def offset (time : DateTime) : Option Int :=
  -- A naive datetime has none.
  (time.tzinfo.utcoffset time.micros).map Subtype.val

/-- Whether the datetime carries an offset. -/
def aware (time : DateTime) : Bool := time.tzinfo ≠ .naive

/-- The instant: UTC for aware datetimes, the wall clock for naive ones. -/
def clock (time : DateTime) : Int :=
  -- Without an offset the wall clock is taken for UTC, as subtraction does with two naive datetimes.
  time.micros - time.offset.getD 0

/-- How much later one datetime of a kind is than another one, in microseconds. -/
def later (left right : DateTime) : Int :=
  -- Within one time zone only the wall clocks are looked at, even across a change of the offset.
  if left.tzinfo.same right.tzinfo then left.micros - right.micros else left.clock - right.clock

/-- The comparison `left <= right`. -/
def le (left right : DateTime) : Except PyError Bool :=
  -- Datetimes of the two kinds have no order.
  if left.aware = right.aware then .ok (decide (left.later right ≤ 0))
  else .error (.typeError "can't compare offset-naive and offset-aware datetimes")

/-- The comparison `left > right`. -/
def gt (left right : DateTime) : Except PyError Bool :=
  -- Greater means that the difference is positive.
  if left.aware = right.aware then .ok (decide (0 < left.later right))
  else .error (.typeError "can't compare offset-naive and offset-aware datetimes")

/-- The difference `left - right`, in microseconds. -/
def elapsed (left right : DateTime) : Except PyError Int :=
  -- Subtraction has the same restriction as comparison.
  if left.aware = right.aware then .ok (left.later right)
  else .error (.typeError "can't subtract offset-naive and offset-aware datetimes")

/-- Subtract a duration, which turns the wall clock back and forgets `fold`. -/
def minus (time : DateTime) (duration : Int) : Except PyError DateTime :=
  -- The wall clock is moved, whatever the offset is then.
  if fits : 0 ≤ time.micros - duration ∧ time.micros - duration < endOfTime then
    .ok ⟨time.micros - duration, time.tzinfo.unfolded, fits⟩
  else .error (.overflowError "date value out of range")

/-- The latest of some datetimes as `max` finds it, keeping the one before unless the next is later. -/
def latest : DateTime → List DateTime → Except PyError DateTime
  -- A later time replaces the best one, and an equal one does not.
  | best, [] => .ok best
  | best, time :: times => do
    let later ← time.gt best
    latest (if later then time else best) times

/-! ### How datetimes are compared -/

/-- An offset is less than a day. -/
theorem offset_inRange (time : DateTime) :
    ∀ ahead ∈ time.offset, -dayMicros < ahead ∧ ahead < dayMicros := by
  -- Every offset carries its bounds.
  intro ahead member
  obtain ⟨found, -, rfl⟩ := Option.map_eq_some_iff.mp member
  exact found.property

@[simp] theorem later_self (time : DateTime) : time.later time = 0 := by
  -- A wall clock differs from itself by nothing.
  simp [later]

/-- Seen from the other side the difference has the opposite sign. -/
theorem later_swap (left right : DateTime) : left.later right = -right.later left := by
  -- Both sides look at the wall clocks, or both at the instants.
  rw [later, later, TzInfo.same_comm]
  split <;> omega

/-- The clock of a datetime whose offset never changes is ahead by that offset. -/
theorem clock_of_constant {time : DateTime} {tzinfo : TzInfo} (constant : tzinfo.Constant)
    (same : time.tzinfo.same tzinfo = true) :
    time.clock = time.micros - ((tzinfo.utcoffset 0).map Subtype.val).getD 0 := by
  -- The offset does not depend on what the wall clock shows.
  cases tzinfo with
  | zone => exact constant.elim
  | naive => cases shown : time.tzinfo <;> simp_all [TzInfo.same, clock, offset, TzInfo.utcoffset]
  | fixed ahead => cases shown : time.tzinfo <;> simp_all [TzInfo.same, clock, offset, TzInfo.utcoffset]

/-- Differences from a datetime whose offset never changes are the time that has passed. -/
theorem later_of_constant {left right : DateTime} (constant : right.tzinfo.Constant) :
    left.later right = left.clock - right.clock := by
  unfold later
  split
  case isTrue same =>
    -- The two wall clocks are ahead by the same offset.
    rw [clock_of_constant constant same, clock_of_constant constant (TzInfo.same_self _)]
    omega
  case isFalse => rfl

/-- So are differences of one from another datetime. -/
theorem later_of_constant_left {left right : DateTime} (constant : left.tzinfo.Constant) :
    left.later right = left.clock - right.clock := by
  -- Seen from the other side the difference has the opposite sign.
  rw [later_swap, later_of_constant constant]
  omega

/-- What is not before year 1 can be subtracted. -/
theorem exists_minus {time : DateTime} {duration : Int} (nonneg : 0 ≤ duration)
    (fits : duration ≤ time.micros) :
    ∃ start, time.minus duration = .ok start := by
  -- Nothing gets later by it.
  have inRange := time.inRange
  exact ⟨_, dif_pos (by omega)⟩

/-- Subtracting a duration keeps the kind of datetime, and the result is earlier by the duration. -/
theorem minus_eq_ok {time start : DateTime} {duration : Int}
    (returned : time.minus duration = .ok start) :
    start.tzinfo.same time.tzinfo = true ∧ start.micros = time.micros - duration ∧
      start.aware = time.aware ∧ time.later start = duration := by
  -- The wall clock moves, and what it is read with stays.
  unfold minus at returned
  split at returned
  · cases returned
    have object := TzInfo.same_unfolded time.tzinfo
    refine ⟨object, rfl, ?_, ?_⟩
    · cases shown : time.tzinfo <;> simp [aware, shown, TzInfo.unfolded]
    · rw [later, TzInfo.same_comm, if_pos object]
      show time.micros - (time.micros - duration) = duration
      omega
  · cases returned

/-- Where the offset never changes, subtracting a duration moves the instant by it, and the offset of the
result never changes. -/
theorem minus_clock {time start : DateTime} {duration : Int} (constant : time.tzinfo.Constant)
    (returned : time.minus duration = .ok start) :
    start.clock = time.clock - duration ∧ start.tzinfo.Constant := by
  -- The result is earlier by the duration, and differences are the time that has passed.
  obtain ⟨object, -, -, moved⟩ := minus_eq_ok returned
  rw [later_of_constant_left constant] at moved
  refine ⟨by omega, ?_⟩
  cases original : time.tzinfo <;> cases result : start.tzinfo <;>
    simp_all [TzInfo.same, TzInfo.Constant]

/-- The latest of some datetimes is one of them, and all are of its kind. -/
theorem latest_eq_ok {first best : DateTime} {times : List DateTime}
    (returned : latest first times = .ok best) :
    best ∈ first :: times ∧ ∀ time ∈ first :: times, time.aware = best.aware := by
  -- Each comparison returned, so its sides are of one kind.
  induction times generalizing first with
  | nil =>
    cases returned
    simp
  | cons time times ih =>
    unfold latest at returned
    obtain ⟨isLater, compared, rest⟩ := bind_eq_ok.mp returned
    unfold gt at compared
    split at compared
    case isFalse => cases compared
    case isTrue kind =>
      cases compared
      obtain ⟨member, same⟩ := ih rest
      have headSame := same _ (List.mem_cons_self ..)
      refine ⟨?_, ?_⟩
      · rcases List.mem_cons.mp member with rfl | inside
        · split <;> simp
        · simp [inside]
      · intro other inside
        rcases List.mem_cons.mp inside with rfl | inside
        · split at headSame
          · rw [← kind, headSame]
          · exact headSame
        rcases List.mem_cons.mp inside with rfl | inside
        · split at headSame
          · exact headSame
          · rw [kind, headSame]
        · exact same other (List.mem_cons_of_mem _ inside)

/-- Datetimes of one kind have a latest one. -/
theorem latest_of_aware (first : DateTime) (times : List DateTime)
    (same : ∀ time ∈ times, time.aware = first.aware) : ∃ best, latest first times = .ok best := by
  -- The comparison with the best one so far returns, whichever of the two is kept.
  induction times generalizing first with
  | nil => exact ⟨first, rfl⟩
  | cons time times ih =>
    have kind := same time (List.mem_cons_self ..)
    have rest := fun other inside => same other (List.mem_cons_of_mem time inside)
    by_cases isLater : 0 < time.later first
    · obtain ⟨best, found⟩ := ih time fun other inside => (rest other inside).trans kind.symm
      exact ⟨best, by simpa [latest, gt, kind, isLater] using found⟩
    · obtain ⟨best, found⟩ := ih first rest
      exact ⟨best, by simpa [latest, gt, kind, isLater] using found⟩

/-- Where no offset ever changes, the latest of some datetimes is the latest instant. -/
theorem latest_upper {first best : DateTime} {times : List DateTime}
    (constant : ∀ time ∈ first :: times, time.tzinfo.Constant) (returned : latest first times = .ok best) :
    ∀ time ∈ first :: times, time.clock ≤ best.clock := by
  -- The best one so far is only replaced by a later instant.
  induction times generalizing first with
  | nil =>
    cases returned
    simp
  | cons time times ih =>
    simp only [List.forall_mem_cons] at constant ⊢
    obtain ⟨firstConstant, timeConstant, restConstant⟩ := constant
    unfold latest at returned
    obtain ⟨isLater, compared, rest⟩ := bind_eq_ok.mp returned
    unfold gt at compared
    rw [later_of_constant firstConstant] at compared
    split at compared
    case isFalse => cases compared
    case isTrue =>
      cases compared
      by_cases isLater : 0 < time.clock - first.clock
      · rw [decide_eq_true isLater, if_pos rfl] at rest
        have upper := ih (List.forall_mem_cons.mpr ⟨timeConstant, restConstant⟩) rest
        have timeUpper := upper time (List.mem_cons_self ..)
        exact ⟨by omega, List.forall_mem_cons.mp upper⟩
      · rw [decide_eq_false isLater, if_neg (by decide)] at rest
        have upper := ih (List.forall_mem_cons.mpr ⟨firstConstant, restConstant⟩) rest
        have firstUpper := upper first (List.mem_cons_self ..)
        exact ⟨firstUpper, by omega, (List.forall_mem_cons.mp upper).2⟩

/-! ### UTC -/

/-- A datetime in UTC is aware, and its offset never changes. -/
theorem aware_of_utc {time : DateTime} (utc : time.tzinfo = .utc) :
    time.aware = true ∧ time.tzinfo.Constant := by
  -- Its offset is fixed.
  rw [aware, utc]
  exact ⟨rfl, trivial⟩

/-- In UTC the clock is what is shown. -/
theorem clock_of_utc {time : DateTime} (utc : time.tzinfo = .utc) : time.clock = time.micros := by
  -- The offset that is taken off is zero.
  rw [clock, offset, utc]
  show time.micros - 0 = time.micros
  omega

/-- Datetimes in UTC at the same instant are equal. -/
theorem utc_ext {left right : DateTime} (leftUtc : left.tzinfo = .utc) (rightUtc : right.tzinfo = .utc)
    (same : left.clock = right.clock) : left = right := by
  -- They show the same, in the same zone.
  rw [clock_of_utc leftUtc, clock_of_utc rightUtc] at same
  cases left
  cases right
  simp_all

/-! ### Differences that add up -/

/-- Over each of three datetimes the differences add up, as those on one clock do. -/
def Coherent (times : List DateTime) : Prop :=
  -- Going by way of any third time makes no difference.
  ∀ first ∈ times, ∀ second ∈ times, ∀ third ∈ times,
    first.later third = first.later second + second.later third

/-- The offsets that two datetimes of one object show are both there or both missing. -/
theorem offset_of_same {left right : DateTime} (same : left.tzinfo.same right.tzinfo = true) :
    left.offset = right.offset ↔ left.offset.getD 0 = right.offset.getD 0 := by
  -- Only objects of one sort are the same.
  cases leftShown : left.tzinfo <;> cases rightShown : right.tzinfo <;>
    simp_all [TzInfo.same, offset, TzInfo.utcoffset]

/-- Differences add up exactly when all datetimes belong to one object or no two of one object are on
different sides of a change of its offset. -/
theorem coherent_iff (times : List DateTime) :
    Coherent times ↔ (∀ left ∈ times, ∀ right ∈ times, left.tzinfo.same right.tzinfo = true) ∨
      ∀ left ∈ times, ∀ right ∈ times, left.tzinfo.same right.tzinfo = true →
        left.offset = right.offset := by
  constructor
  · intro coherent
    by_contra neither
    simp only [not_or, not_forall] at neither
    obtain ⟨⟨first, firstIn, second, secondIn, apart⟩, left, leftIn, right, rightIn, same, changed⟩ := neither
    -- One of the two that are of different objects is of another one than those across the change.
    obtain ⟨other, otherIn, foreign⟩ : ∃ other ∈ times, ¬ left.tzinfo.same other.tzinfo = true := by
      by_cases shared : left.tzinfo.same first.tzinfo = true
      · exact ⟨second, secondIn, fun also =>
          apart (TzInfo.same_trans ((TzInfo.same_comm _ _).trans shared) also)⟩
      · exact ⟨first, firstIn, shared⟩
    have foreignRight : ¬ other.tzinfo.same right.tzinfo = true := fun also =>
      foreign (TzInfo.same_trans same ((TzInfo.same_comm _ _).trans also))
    have sum := coherent left leftIn other otherIn right rightIn
    rw [offset_of_same same] at changed
    simp only [later, if_pos same, if_neg foreign, if_neg foreignRight, clock] at sum
    omega
  · intro either first firstIn second secondIn third thirdIn
    rcases either with one | unchanged
    · simp only [later, one _ firstIn _ thirdIn, one _ firstIn _ secondIn, one _ secondIn _ thirdIn, if_true]
      omega
    · -- Every difference is the time that has passed.
      have passed : ∀ left ∈ times, ∀ right ∈ times, left.later right = left.clock - right.clock := by
        intro left leftIn right rightIn
        unfold later
        split
        case isTrue same =>
          rw [clock, clock, unchanged left leftIn right rightIn same]
          omega
        case isFalse => rfl
      rw [passed _ firstIn _ thirdIn, passed _ firstIn _ secondIn, passed _ secondIn _ thirdIn]
      omega

/-- Differences between datetimes of constant offsets add up. -/
theorem coherent_of_constant {times : List DateTime}
    (constant : ∀ time ∈ times, time.tzinfo.Constant) : Coherent times := by
  -- All of them are the time that has passed.
  intro first _ second secondIn third thirdIn
  rw [later_of_constant (constant third thirdIn), later_of_constant (constant second secondIn),
    later_of_constant (constant third thirdIn)]
  omega

end DateTime

/-! ### Two time zones -/

/-- Central European Time around the end of the summer of 2024. -/
def Zone.berlin : Zone where
  -- Only the end of one summer time is kept of its changes.
  key := "Europe/Berlin"
  start := ⟨2 * hourMicros, by decide⟩
  changes := [(739185 * dayMicros + hourMicros, hourAhead)]

/-- The time on Samoa, where the thirtieth of December 2011 was left out. -/
def Zone.apia : Zone where
  -- Only the leap over the date line is kept of its changes.
  key := "Pacific/Apia"
  start := ⟨-10 * hourMicros, by decide⟩
  changes := [(734500 * dayMicros + 10 * hourMicros, ⟨14 * hourMicros, by decide⟩)]

end Absm
