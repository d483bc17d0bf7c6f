import PlanCompiler.Instant
import PlanCompiler.Text.CodePoint

/-!
# Reading instants

The written forms of a date and a time that are accepted when the clock is set. A date is written
with hyphens or without, by month and day or by week and weekday; any character may separate it from
the time; the time may stop after the hour or the minute, go on to fractions of a second, and carry
an offset. The offset is checked and then left aside: the fields count as they are written.

* `Date.ofWeek?`: the day of a week date;
* `Instant.read`: the instant, or what is wrong with the text.
-/

namespace PlanCompiler

/-- What is wrong with the text of an instant. -/
inductive InstantFault
  | malformed
  /-- An offset of a day or more, in microseconds. -/
  | offsetOutOfRange (micros : Int)
  | yearOutOfRange (year : Nat)
  | monthOutOfRange
  | dayOutOfRange
  | hourOutOfRange
  | minuteOutOfRange
  | secondOutOfRange
  deriving DecidableEq, Repr

namespace Date

/-- The day of the week, from zero for Monday. -/
def weekday (d : Date) : Nat :=
  d.toDays % 7

/-- The first day of the first week of a year: the week that holds the fourth of January. -/
def firstMonday (year : Nat) : Int :=
  let fourth : Date := ⟨year, 1, 4⟩
  (fourth.toDays : Int) - fourth.weekday

/-- The year has a week 53: it begins on a Thursday, or on a Wednesday and is a leap year. -/
def hasLongYear (year : Nat) : Bool :=
  let first := weekday ⟨year, 1, 1⟩
  first = 3 || (first = 2 && isLeap year)

/-- What the week dates of year 0 stand for: they lie before the calendar, in none of its months. -/
def beforeCalendar : Date := ⟨1, 0, 1⟩

/-- The year has a week of the given number. -/
def hasWeek (year week : Nat) : Bool :=
  0 < week && (week ≤ 52 || (week = 53 && 0 < year && hasLongYear year))

/-- The day of a week date: year, week and weekday from one for Monday. -/
def ofWeek? (year week day : Nat) : Option Date :=
  if !hasWeek year week || day = 0 || 7 < day then none
  else if year = 0 then some beforeCalendar
  else some (ofDays (firstMonday year + ((week - 1) * 7 + (day - 1) : Nat)).toNat)

end Date

namespace Instant

open Binary64 (isDigit natOfDigits)

/-- What stands for the end of a text. -/
def endMark : Char := '\x00'

/-- The number written by exactly `width` digits at the head of a text, and the rest. -/
def number? (width : Nat) (s : List Char) : Option (Nat × List Char) :=
  let digits := s.take width
  if digits.length = width ∧ digits.all isDigit then some (natOfDigits digits, s.drop width)
  else none

/-- How many characters at the head of a text make up the date. A week date without a weekday is
told from one with it by what follows: the digits of a time come in pairs. -/
def dateLength (s : List Char) : Nat :=
  if s.length = 7 then 7
  else if s[4]? = some '-' then
    if s[5]? = some 'W' ∧ (s[8]? ≠ some '-' ∨ s[10]?.any isDigit) then 8 else 10
  else if s[4]? = some 'W' then
    let digitsEnd := 7 + ((s.drop 7).takeWhile isDigit).length
    if digitsEnd < 9 then digitsEnd else if digitsEnd % 2 = 0 then 7 else 8
  else 8

/-- The text after a hyphen, if the parts of the date are separated by hyphens. -/
def afterHyphen? (hyphens : Bool) (s : List Char) : Option (List Char) :=
  match hyphens, s with
  | false, s => some s
  | true, '-' :: s => some s
  | true, _ => none

/-- Year, month and day of a date. Only a week date is known to exist. -/
def readDate? (s : List Char) : Option Date := do
  let (year, s) ← number? 4 s
  let hyphens := s.head? = some '-'
  match ← afterHyphen? hyphens s with
  | 'W' :: s =>
    let (week, s) ← number? 2 s
    if s.isEmpty then Date.ofWeek? year week 1
    else
      let (day, _) ← number? 1 (← afterHyphen? hyphens s)
      Date.ofWeek? year week day
  | s =>
    let (month, s) ← number? 2 s
    let (day, _) ← number? 2 (← afterHyphen? hyphens s)
    pure ⟨year, month, day⟩

/-- A time as it is written: hours, minutes and seconds as far as they are given, microseconds, and
whether something follows. -/
structure WrittenTime where
  parts : List Nat
  micro : Nat := 0
  hasMore : Bool

/-- The fraction of a second, cut after six digits. `next` is the character after the text. -/
def readFraction? (parts : List Nat) (next : Char) (s : List Char) : Option WrittenTime := do
  let width := min 6 s.length
  let (fraction, rest) ← number? width s
  let after := (rest.dropWhile isDigit).headD next
  pure { parts, micro := fraction * Binary64.tenTo (6 - width), hasMore := after ≠ endMark }

/-- The parts of a time after those already read. There are colons after all parts or after none;
one more ASCII character at the end is only noted. -/
def readParts? (next : Char) : (remaining : Nat) → (colons : Option Bool) → (parts : List Nat) →
    List Char → Option WrittenTime
  | 0, _, parts, s => readFraction? parts next s
  | remaining + 1, colons, parts, s => do
    let (value, rest) ← number? 2 s
    let parts := parts ++ [value]
    match rest with
    | [] => pure { parts, hasMore := next ≠ endMark }
    | [c] => if c.toNat < 0x80 then pure { parts, hasMore := c ≠ endMark } else none
    | c :: after =>
      let colons := colons.getD (c = ':')
      if colons && c = ':' then readParts? next remaining colons parts after
      else if c = '.' ∨ c = ',' then readFraction? parts next after
      else if colons then none
      else readParts? next remaining colons parts rest

/-- A time; `next` is the character after the text. -/
def readTime? (next : Char) (s : List Char) : Option WrittenTime :=
  readParts? next 3 none [] s

/-- The time in microseconds. -/
def WrittenTime.micros (t : WrittenTime) : Nat :=
  (t.parts.getD 0 0 * 60 + t.parts.getD 1 0) * perMinute + t.parts.getD 2 0 * perSecond + t.micro

/-- The beginning of an offset. -/
def isOffsetMark (c : Char) : Bool :=
  c = '+' || c = '-' || c = 'Z'

/-- A time and its offset in microseconds. -/
def readTimeOffset? (s : List Char) : Option (WrittenTime × Int) := do
  match s.takeWhile (!isOffsetMark ·), s.dropWhile (!isOffsetMark ·) with
  | time, [] =>
    let t ← readTime? endMark time
    if t.hasMore then none else pure (t, 0)
  | time, mark :: rest =>
    let t ← readTime? mark time
    if mark = 'Z' then if rest.headD endMark = endMark then pure (t, 0) else none
    else
      let offset ← readTime? endMark rest
      if offset.hasMore then none
      else pure (t, if mark = '-' then -(offset.micros : Int) else offset.micros)

/-- The time after a date and the character that separates them. Without either it is midnight. -/
def readRest? : List Char → Option (WrittenTime × Int)
  | [] => some ({ parts := [], hasMore := false }, 0)
  | _ :: s => readTimeOffset? s

/-- The last year of the calendar. -/
def lastYear : Nat := 9999

/-- The instant of a date and a time, if both exist. -/
def ofWritten (d : Date) (t : WrittenTime) : Except InstantFault Instant :=
  let hour := t.parts.getD 0 0
  let minute := t.parts.getD 1 0
  let second := t.parts.getD 2 0
  if d.year = 0 ∨ lastYear < d.year then .error (.yearOutOfRange d.year)
  else if d.month = 0 ∨ 12 < d.month then .error .monthOutOfRange
  else if d.day = 0 ∨ Date.monthLength d.year d.month < d.day then .error .dayOutOfRange
  else if 23 < hour then .error .hourOutOfRange
  else if 59 < minute then .error .minuteOutOfRange
  else if 59 < second then .error .secondOutOfRange
  else .ok (ofParts d hour minute second t.micro)

/-- The shortest text that is read. -/
def leastLength : Nat := 7

/-- The instant that a text denotes. -/
def read (text : List Char) : Except InstantFault Instant :=
  let s := Text.toPlain text
  let parts? := do
    let date ← readDate? (s.take (dateLength s))
    let (time, offset) ← readRest? (s.drop (dateLength s))
    pure (date, time, offset)
  match if s.length < leastLength then none else parts? with
  | none => .error .malformed
  | some (date, time, offset) =>
    if perDay ≤ offset.natAbs then .error (.offsetOutOfRange offset) else ofWritten date time

end Instant

end PlanCompiler
