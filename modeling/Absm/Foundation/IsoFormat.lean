import Absm.Foundation.Calendar
import Absm.Foundation.DateTime

/-! The texts that datetimes are written as, and reading them back. -/

namespace Absm

/-! ### Numbers at a fixed width -/

/-- The last digits of a number. -/
def padded : (width : Nat) → (number : Nat) → List Char
  -- The leading digit comes first; digits beyond the width are lost.
  | 0, _ => []
  | width + 1, number => Nat.digitChar (number / 10 ^ width % 10) :: padded width number

/-- Read a fixed number of digits behind those that were read before. -/
def readPadded : (width : Nat) → (before : Nat) → List Char → Option (Nat × List Char)
  -- Exactly as many digits are read as the width says.
  | 0, before, text => some (before, text)
  | width + 1, before, c :: rest =>
    if c.isDigit then readPadded width (before * 10 + (c.toNat - '0'.toNat)) rest else none
  | _ + 1, _, [] => none

/-- What a digit's character is read as. -/
theorem digitChar_read {digit : Nat} (one : digit < 10) :
    (Nat.digitChar digit).isDigit = true ∧ (Nat.digitChar digit).toNat - '0'.toNat = digit := by
  -- There are ten of them.
  revert one
  revert digit
  decide

/-- The last digits of a number are read behind the digits before them. -/
theorem readPadded_padded (width before number : Nat) (rest : List Char) :
    readPadded width before (padded width number ++ rest) =
      some (before * 10 ^ width + number % 10 ^ width, rest) := by
  -- The first digit is the last one of what stands before the others.
  induction width generalizing before with
  | zero => simp [padded, readPadded, Nat.mod_one]
  | succ width ih =>
    obtain ⟨isDigit, read⟩ := digitChar_read (Nat.mod_lt (number / 10 ^ width) (show 0 < 10 by decide))
    rw [padded, List.cons_append, readPadded, if_pos isDigit, read, ih, Nat.pow_succ, Nat.mod_mul,
      Nat.add_mul, Nat.mul_assoc, Nat.mul_comm 10 (10 ^ width), Nat.mul_comm (_ / _ % 10) (10 ^ width)]
    congr 2
    omega

/-- A number that has no more digits is read as it is. -/
theorem readPadded_padded_of_lt {width number : Nat} (fits : number < 10 ^ width) (rest : List Char) :
    readPadded width 0 (padded width number ++ rest) = some (number, rest) := by
  -- A number that fits loses no digit.
  rw [readPadded_padded, Nat.zero_mul, Nat.zero_add, Nat.mod_eq_of_lt fits]

/-- Leave out a character that must come next. -/
def expect (c : Char) : List Char → Option (List Char)
  -- Another character, or the end of the text, is refused.
  | [] => none
  | d :: rest => if d = c then some rest else none

@[simp] theorem expect_cons (c : Char) (rest : List Char) : expect c (c :: rest) = some rest :=
  -- The first character is the one that is expected.
  if_pos rfl

/-! ### Dates -/

namespace Date

/-- Year, month and day, with hyphens between them. -/
def text (date : Date) : List Char :=
  -- Years have four digits, as all years up to 9999 do.
  padded 4 date.year ++ '-' :: (padded 2 date.month ++ '-' :: padded 2 date.day)

/-- Read a year, a month and a day. -/
def read (text : List Char) : Option (Date × List Char) := do
  -- What is behind the day is left for the time.
  let (year, text) ← readPadded 4 0 text
  let text ← expect '-' text
  let (month, text) ← readPadded 2 0 text
  let text ← expect '-' text
  let (day, text) ← readPadded 2 0 text
  return (⟨year, month, day⟩, text)

/-- A month has at most 31 days. -/
theorem length_le {year length : Nat} (member : length ∈ monthLengths year) : length ≤ 31 := by
  -- The longest months have 31 days.
  simp only [monthLengths, List.mem_cons, List.not_mem_nil, or_false] at member
  split at member <;> omega

/-- The numbers of a date are short. -/
theorem Valid.short {date : Date} (valid : date.Valid) :
    date.year < 10 ^ 4 ∧ date.month < 10 ^ 2 ∧ date.day < 10 ^ 2 := by
  -- No month is longer than thirty-one days, and there are twelve of them.
  obtain ⟨_, upper, _, _, length, is, below⟩ := valid
  obtain ⟨inside, here⟩ := List.getElem?_eq_some_iff.mp is
  have short := length_le (List.mem_of_getElem here)
  have months : (monthLengths date.year).length = 12 := rfl
  omega

/-- A date is read back from its text. -/
theorem read_text {date : Date} (valid : date.Valid) (rest : List Char) :
    read (date.text ++ rest) = some (date, rest) := by
  -- Each number is as short as the space for it.
  obtain ⟨year, month, day⟩ := valid.short
  simp only [read, text, List.append_assoc, List.cons_append, readPadded_padded_of_lt year,
    readPadded_padded_of_lt month, readPadded_padded_of_lt day, expect_cons, Option.bind_eq_bind,
    Option.bind_some, Option.pure_def]

end Date

/-! ### Times -/

/-- A number of hours, minutes, seconds and microseconds. -/
structure ClockTime where
  /-- The hours. -/
  hour : Nat
  /-- The minutes. -/
  minute : Nat
  /-- The seconds. -/
  second : Nat
  /-- The microseconds. -/
  microsecond : Nat
  deriving DecidableEq

namespace ClockTime

/-- A duration in hours and what is smaller. -/
def ofMicros (micros : Nat) : ClockTime :=
  -- Each unit is what the greater ones leave over.
  ⟨micros / 3600000000, micros / 60000000 % 60, micros / 1000000 % 60, micros % 1000000⟩

/-- The duration in microseconds. -/
def micros (time : ClockTime) : Nat :=
  -- The units are nested.
  ((time.hour * 60 + time.minute) * 60 + time.second) * 1000000 + time.microsecond

/-- A time that a day has. -/
def Valid (time : ClockTime) : Prop :=
  -- There are no leap seconds.
  time.hour < 24 ∧ time.minute < 60 ∧ time.second < 60 ∧ time.microsecond < 1000000

instance (time : ClockTime) : Decidable time.Valid := inferInstanceAs (Decidable (_ ∧ _ ∧ _ ∧ _))

/-- The microseconds, which are left out when there are none. -/
def fractionText (time : ClockTime) : List Char :=
  -- Without a fraction there is no point, either.
  if time.microsecond = 0 then [] else '.' :: padded 6 time.microsecond

/-- The seconds and the microseconds. -/
def secondsText (time : ClockTime) : List Char :=
  -- The colon belongs to the seconds, which can be missing in an offset.
  ':' :: (padded 2 time.second ++ time.fractionText)

/-- The time, whose seconds may be left out when there are none. -/
def text (leaveOut : Bool) (time : ClockTime) : List Char :=
  -- In the offset, seconds are written only when there are any.
  padded 2 time.hour ++ ':' :: (padded 2 time.minute ++
    if leaveOut ∧ time.second = 0 ∧ time.microsecond = 0 then [] else time.secondsText)

/-- Read microseconds, if there are any. -/
def readFraction (text : List Char) : Option (Nat × List Char) :=
  -- Without a point there is no fraction.
  if text.head? = some '.' then readPadded 6 0 text.tail else some (0, text)

/-- Read seconds and microseconds, if there are any. -/
def readSeconds (text : List Char) : Option ((Nat × Nat) × List Char) :=
  -- Without a colon there are no seconds.
  if text.head? = some ':' then do
    let (second, text) ← readPadded 2 0 text.tail
    let (microsecond, text) ← readFraction text
    return ((second, microsecond), text)
  else some ((0, 0), text)

/-- Read hours, minutes and what is smaller. -/
def read (text : List Char) : Option (ClockTime × List Char) := do
  -- The colon between hour and minute is needed.
  let (hour, text) ← readPadded 2 0 text
  let text ← expect ':' text
  let (minute, text) ← readPadded 2 0 text
  let ((second, microsecond), text) ← readSeconds text
  return (⟨hour, minute, second, microsecond⟩, text)

/-- The hours and what is smaller make up the duration. -/
@[simp] theorem micros_ofMicros (micros : Nat) : (ofMicros micros).micros = micros := by
  -- The remainders add up again.
  unfold ofMicros ClockTime.micros
  dsimp only
  omega

/-- A duration of less than a day is a time of the day. -/
theorem valid_ofMicros {micros : Nat} (less : micros < 86400000000) : (ofMicros micros).Valid := by
  -- An hour is the number of whole hours in less than a day.
  unfold ofMicros Valid
  dsimp only
  omega

/-- Microseconds are read back. -/
theorem readFraction_text {time : ClockTime} (valid : time.Valid) {rest : List Char}
    (ends : rest.head? ≠ some '.') :
    readFraction (time.fractionText ++ rest) = some (time.microsecond, rest) := by
  -- A time without a fraction ends where what follows begins, and that is no point.
  unfold fractionText readFraction
  split
  case isTrue none => rw [List.nil_append, if_neg ends, none]
  case isFalse => exact (if_pos rfl).trans (readPadded_padded_of_lt valid.2.2.2 rest)

/-- A time is read back from its text, whether or not seconds are left out, when neither a point nor a
colon follows. -/
theorem read_text {time : ClockTime} (valid : time.Valid) (leaveOut : Bool) (rest : List Char)
    (noPoint : rest.head? ≠ some '.') (noColon : rest.head? ≠ some ':') :
    read (time.text leaveOut ++ rest) = some (time, rest) := by
  have seconds : readSeconds ((if leaveOut ∧ time.second = 0 ∧ time.microsecond = 0 then []
      else time.secondsText) ++ rest) = some ((time.second, time.microsecond), rest) := by
    split
    case isTrue left => rw [List.nil_append, readSeconds, if_neg noColon, left.2.1, left.2.2]
    case isFalse =>
      have short : time.second < 10 ^ 2 := valid.2.2.1.trans (by decide)
      rw [secondsText, List.cons_append, readSeconds, List.head?_cons, if_pos rfl, List.tail_cons,
        List.append_assoc, readPadded_padded_of_lt short]
      simp only [Option.bind_eq_bind, Option.bind_some, readFraction_text valid noPoint, Option.pure_def]
  -- Hours and minutes have two digits.
  have hour : time.hour < 10 ^ 2 := valid.1.trans (by decide)
  have minute : time.minute < 10 ^ 2 := valid.2.1.trans (by decide)
  simp only [read, text, List.append_assoc, List.cons_append, readPadded_padded_of_lt hour,
    readPadded_padded_of_lt minute, expect_cons, seconds, Option.bind_eq_bind, Option.bind_some,
    Option.pure_def]

end ClockTime

/-! ### Offsets -/

/-- An offset with its sign; nothing for a naive datetime. -/
def offsetText : Option Int → List Char
  -- The sign is that of the whole offset.
  | none => []
  | some ahead => (if ahead < 0 then '-' else '+') :: (ClockTime.ofMicros ahead.natAbs).text true

/-- Read an offset up to the end of the text. -/
def readOffset : List Char → Option (Option Int)
  | [] => some none
  | sign :: rest =>
    if sign = 'Z' then if rest = [] then some (some 0) else none
    else if sign = '+' ∨ sign = '-' then do
      let (time, rest) ← ClockTime.read rest
      -- Without a whole second it is taken for UTC, and the microseconds are dropped.
      let size : Int := if time.hour * 3600 + time.minute * 60 + time.second = 0 then 0 else time.micros
      if rest = [] then some (some (if sign = '-' then -size else size)) else none
    else none

/-- What is left of an offset: one of less than a second is taken for UTC. -/
def wholeOffset (ahead : Int) : Int :=
  -- Less than a second counts as no offset.
  if ahead.natAbs < 1000000 then 0 else ahead

/-- An offset without whole seconds is one of less than a second. -/
theorem ClockTime.seconds_ofMicros (micros : Nat) :
    (ofMicros micros).hour * 3600 + (ofMicros micros).minute * 60 + (ofMicros micros).second = 0 ↔
      micros < 1000000 := by
  -- The microseconds are not among the three units.
  unfold ofMicros
  dsimp only
  omega

/-- An offset of less than a day is read back from its text, but for the microseconds of one of less than a
second. -/
theorem readOffset_text {offset : Option Int}
    (small : ∀ ahead ∈ offset, -dayMicros < ahead ∧ ahead < dayMicros) :
    readOffset (offsetText offset) = some (offset.map wholeOffset) := by
  cases offset with
  | none => rfl
  | some ahead =>
    obtain ⟨lower, upper⟩ := small ahead rfl
    unfold dayMicros at lower upper
    have valid : (ClockTime.ofMicros ahead.natAbs).Valid := ClockTime.valid_ofMicros (by omega)
    have read := ClockTime.read_text valid true [] (by simp) (by simp)
    rw [List.append_nil] at read
    -- The sign is written before the size.
    by_cases negative : ahead < 0
    · simp only [offsetText, readOffset, if_pos negative, read, Option.bind_eq_bind, Option.bind_some,
        ClockTime.micros_ofMicros, ClockTime.seconds_ofMicros, wholeOffset, Option.map_some]
      have size : (ahead.natAbs : Int) = -ahead := Int.ofNat_natAbs_of_nonpos negative.le
      rw [size]
      by_cases less : ahead.natAbs < 1000000 <;> simp [less]
    · simp only [offsetText, readOffset, if_neg negative, read, Option.bind_eq_bind, Option.bind_some,
        ClockTime.micros_ofMicros, ClockTime.seconds_ofMicros, wholeOffset, Option.map_some]
      have size : (ahead.natAbs : Int) = ahead := Int.natAbs_of_nonneg (not_lt.mp negative)
      rw [size]
      simp

/-! ### Datetimes -/

namespace DateTime

/-- The date that the wall clock shows. -/
def date (time : DateTime) : Date :=
  -- Whole days since the start of year 1 are counted.
  Date.ofDays (time.micros.toNat / 86400000000)

/-- The time of day that the wall clock shows. -/
def time (time : DateTime) : ClockTime :=
  -- The time is what the days leave over.
  ClockTime.ofMicros (time.micros.toNat % 86400000000)

/-- `datetime.isoformat`, as characters. -/
def isoText (time : DateTime) : List Char :=
  -- The letter separates the date from the time.
  time.date.text ++ 'T' :: (time.time.text false ++ offsetText time.offset)

/-- `datetime.isoformat`. -/
def isoformat (time : DateTime) : String := String.ofList time.isoText

/-- The `tzinfo` of an offset that was read, if it is less than a day. -/
def readTzinfo : Option Int → Option TzInfo
  -- An offset of a day or more is refused, and none makes a naive datetime.
  | none => some .naive
  | some ahead =>
    if small : -dayMicros < ahead ∧ ahead < dayMicros then some (.fixed ⟨ahead, small⟩) else none

/-- The datetime that shows a date and a time, if there is one. -/
def combine (date : Date) (time : ClockTime) (offset : Option Int) : Option DateTime :=
  -- Date, time and offset are checked by what Python's constructors accept.
  let micros : Int := date.days * dayMicros + time.micros
  if fits : 0 ≤ micros ∧ micros < endOfTime then
    if date.Valid ∧ time.Valid then (readTzinfo offset).map fun tzinfo => ⟨micros, tzinfo, fits⟩ else none
  else none

/-- Read a datetime: a date, any character, a time and an offset; a date alone is its midnight. -/
def readIso (text : List Char) : Option DateTime := do
  -- A date alone is midnight; any one character separates it from a time.
  let (date, text) ← Date.read text
  match text with
  | [] => combine date ⟨0, 0, 0, 0⟩ none
  | _ :: text =>
    let (time, text) ← ClockTime.read text
    combine date time (← readOffset text)

/-- `datetime.fromisoformat`, on the layout that `isoformat` writes. -/
def fromisoformat (text : String) : Except PyError DateTime :=
  -- Whatever is not read is refused with one error.
  match readIso text.toList with
  | some time => .ok time
  | none => .error (.valueError "Invalid isoformat string")

/-- The wall clock shows a date of the calendar. -/
theorem valid_date (time : DateTime) : time.date.Valid := by
  -- The datetime is before the year 10000.
  have inRange := time.inRange
  unfold endOfTime dayMicros at inRange
  exact Date.valid_ofDays (by omega)

/-- The wall clock shows a time that a day has. -/
theorem valid_time (time : DateTime) : time.time.Valid :=
  -- The remainder is less than a day.
  ClockTime.valid_ofMicros (Nat.mod_lt _ (by decide))

/-- What is read back from the text of a datetime: the offset, but not the time zone that it is from. -/
def restoredTzinfo (time : DateTime) : TzInfo :=
  -- What is written is the offset at this moment, not the zone.
  match time.tzinfo.utcoffset time.micros with
  | none => .naive
  | some ahead => if ahead.val.natAbs < 1000000 then .utc else .fixed ahead

/-- The datetime that is read back from the text of a datetime. -/
def restored (time : DateTime) : DateTime := ⟨time.micros, time.restoredTzinfo, time.inRange⟩

/-- A datetime that comes back as it was: without an offset, or with a fixed one that is none or at least a
second. -/
def Restorable (time : DateTime) : Prop :=
  -- A time zone never comes back as one.
  match time.tzinfo with
  | .naive => True
  | .fixed ahead => ahead.val = 0 ∨ 1000000 ≤ ahead.val.natAbs
  | .zone _ _ => False

/-- What comes back is the datetime exactly when it is restorable. -/
theorem restored_eq_iff (time : DateTime) : time.restored = time ↔ time.Restorable := by
  have whole : time.restored = time ↔ time.restoredTzinfo = time.tzinfo := by
    cases time
    simp [restored]
  rw [whole, restoredTzinfo, Restorable]
  cases time.tzinfo with
  | naive => simp [TzInfo.utcoffset]
  | fixed ahead =>
    -- An offset of less than a second is UTC's only when it is none.
    by_cases small : ahead.val.natAbs < 1000000
    · simp only [TzInfo.utcoffset, if_pos small, TzInfo.utc, TzInfo.fixed.injEq, Subtype.ext_iff]
      omega
    · simp only [TzInfo.utcoffset, if_neg small, true_iff]
      omega
  | zone rules fold =>
    simp only [TzInfo.utcoffset, iff_false, TzInfo.utc]
    split <;> simp

/-- Of a datetime in UTC nothing is lost. -/
theorem restorable_of_utc {time : DateTime} (utc : time.tzinfo = .utc) : time.Restorable := by
  -- The offset is zero.
  simp [Restorable, utc, TzInfo.utc]

/-- What is restored shows date and time, with the offset that was read. -/
theorem combine_date_time (time : DateTime) :
    combine time.date time.time (time.offset.map wholeOffset) = some time.restored := by
  have fits : time.date.Valid ∧ time.time.Valid := ⟨time.valid_date, time.valid_time⟩
  have inRange := time.inRange
  -- Days and the time of day make up what the wall clock shows.
  have whole : (time.date.days : Int) * dayMicros + time.time.micros = time.micros := by
    rw [date, DateTime.time, Date.days_ofDays, ClockTime.micros_ofMicros, dayMicros]
    omega
  have zone : readTzinfo (time.offset.map wholeOffset) = some time.restoredTzinfo := by
    rw [offset, restoredTzinfo]
    cases time.tzinfo.utcoffset time.micros with
    | none => rfl
    | some ahead =>
      simp only [Option.map_some, wholeOffset]
      split
      · rfl
      · exact dif_pos ahead.property
  simp only [combine, whole]
  rw [dif_pos inRange, if_pos fits, zone]
  rfl

/-- What follows the time is a sign or the end of the text. -/
theorem head_offsetText (offset : Option Int) {c : Char} (other : c ≠ '-' ∧ c ≠ '+') :
    (offsetText offset).head? ≠ some c := by
  -- A naive datetime has no offset, and an offset starts with its sign.
  cases offset with
  | none => simp [offsetText]
  | some ahead =>
    rw [offsetText, List.head?_cons]
    split <;> simp [Ne.symm other.1, Ne.symm other.2]

/-- Time and offset are read behind a date. -/
theorem readIso_isoText (time : DateTime) : readIso time.isoText = some time.restored := by
  -- Each part is read off the front of the text, whatever is left behind it.
  have clock := ClockTime.read_text time.valid_time false (offsetText time.offset)
    (head_offsetText _ (by decide)) (head_offsetText _ (by decide))
  have date := Date.read_text time.valid_date
    ('T' :: (time.time.text false ++ offsetText time.offset))
  unfold readIso isoText
  rw [date]
  show (ClockTime.read _).bind _ = _
  rw [clock]
  show (readOffset _).bind _ = _
  rw [readOffset_text time.offset_inRange, Option.bind_some, combine_date_time]

/-- What is read back from the text of a datetime is what can be restored of it. -/
theorem fromisoformat_isoformat (time : DateTime) : fromisoformat time.isoformat = .ok time.restored := by
  -- The text is read back piece by piece.
  rw [fromisoformat, isoformat, String.toList_ofList, readIso_isoText]

example : isoformat (.utc (719162 * dayMicros + 5) (by decide)) =
    "1970-01-01T00:00:00.000005+00:00" := by decide +kernel

end DateTime
end Absm
