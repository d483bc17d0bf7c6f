import PlanCompiler.Number.Decimal

/-!
# Instants

Points in time in UTC, to the microsecond, on the calendar with leap years every four years but not
in three of four centuries. An instant is the count of microseconds since the beginning of year 1,
so that comparing instants is comparing numbers.

* `Date.ofDays`, `Date.toDays`: the day of a count of days, and back;
* `iso`: the written form;
* `minuteText`: date, hour and minute as the head of an exported report shows them.
-/

namespace PlanCompiler

/-- A day of the calendar. -/
structure Date where
  year : Nat
  month : Nat
  day : Nat
  deriving DecidableEq, Repr

namespace Date

/-- Days from 1 March of year 0 to 1 January of year 1. Years counted from March end with the leap
day. -/
def daysBeforeYearOne : Nat := 306

/-- The day that many days after 1 January of year 1. -/
def ofDays (days : Nat) : Date :=
  let z := days + daysBeforeYearOne
  let era := z / 146097
  let dayOfEra := z % 146097
  let yearOfEra := (dayOfEra - dayOfEra / 1460 + dayOfEra / 36524 - dayOfEra / 146096) / 365
  let dayOfYear := dayOfEra - (365 * yearOfEra + yearOfEra / 4 - yearOfEra / 100)
  let monthFromMarch := (5 * dayOfYear + 2) / 153
  let month := if monthFromMarch < 10 then monthFromMarch + 3 else monthFromMarch - 9
  { year := yearOfEra + era * 400 + (if month ≤ 2 then 1 else 0)
    month
    day := dayOfYear - (153 * monthFromMarch + 2) / 5 + 1 }

/-- A year of 366 days. -/
def isLeap (year : Nat) : Bool :=
  year % 4 = 0 && (year % 100 ≠ 0 || year % 400 = 0)

/-- How many days a month has. -/
def monthLength (year month : Nat) : Nat :=
  match month with
  | 2 => if isLeap year then 29 else 28
  | 4 | 6 | 9 | 11 => 30
  | _ => 31

/-- How many days after 1 January of year 1 a day is. -/
def toDays (d : Date) : Nat :=
  let year := if d.month ≤ 2 then d.year - 1 else d.year
  let era := year / 400
  let yearOfEra := year % 400
  let monthFromMarch := if d.month ≤ 2 then d.month + 9 else d.month - 3
  let dayOfYear := (153 * monthFromMarch + 2) / 5 + d.day - 1
  let dayOfEra := yearOfEra * 365 + yearOfEra / 4 - yearOfEra / 100 + dayOfYear
  era * 146097 + dayOfEra - daysBeforeYearOne

end Date

/-- A point in time. -/
structure Instant where
  /-- Microseconds since the beginning of year 1. -/
  micros : Nat
  deriving DecidableEq, Repr

namespace Instant

/-- Microseconds in a second, a minute, and a day. -/
def perSecond : Nat := 1000000

@[inherit_doc perSecond]
def perMilli : Nat := 1000

@[inherit_doc perSecond]
def perMinute : Nat := 60 * perSecond

@[inherit_doc perSecond]
def perDay : Nat := 1440 * perMinute

/-- The beginning of a day, and hours, minutes, seconds and microseconds after it. -/
def ofParts (d : Date) (hour minute second micro : Nat) : Instant :=
  ⟨d.toDays * perDay + hour * 60 * perMinute + minute * perMinute + second * perSecond + micro⟩

/-- One minute later. -/
def nextMinute (t : Instant) : Instant :=
  ⟨t.micros + perMinute⟩

/-- The day. -/
def date (t : Instant) : Date :=
  Date.ofDays (t.micros / perDay)

/-- Hour, minute, second and microsecond of the day. -/
def hour (t : Instant) : Nat := t.micros % perDay / (60 * perMinute)

@[inherit_doc hour]
def minute (t : Instant) : Nat := t.micros / perMinute % 60

@[inherit_doc hour]
def second (t : Instant) : Nat := t.micros / perSecond % 60

@[inherit_doc hour]
def micro (t : Instant) : Nat := t.micros % perSecond

/-- A number with at least `width` digits. -/
def padded (width n : Nat) : String :=
  let digits := Nat.toDigits 10 n
  String.ofList (List.replicate (width - digits.length) '0' ++ digits)

/-- The written form without an offset; microseconds only when there are some. -/
def iso (t : Instant) : String :=
  let d := t.date
  padded 4 d.year ++ "-" ++ padded 2 d.month ++ "-" ++ padded 2 d.day ++ "T" ++
    padded 2 t.hour ++ ":" ++ padded 2 t.minute ++ ":" ++ padded 2 t.second ++
    (if t.micro = 0 then "" else "." ++ padded 6 t.micro)

/-- The written form in a column: a space before the time, and always the microseconds. -/
def columnText (t : Instant) : String :=
  let d := t.date
  padded 4 d.year ++ "-" ++ padded 2 d.month ++ "-" ++ padded 2 d.day ++ " " ++
    padded 2 t.hour ++ ":" ++ padded 2 t.minute ++ ":" ++ padded 2 t.second ++ "." ++
    padded 6 t.micro

/-- Date, hour and minute. -/
def minuteText (t : Instant) : String :=
  let d := t.date
  padded 0 d.year ++ "-" ++ padded 2 d.month ++ "-" ++ padded 2 d.day ++ " " ++
    padded 2 t.hour ++ ":" ++ padded 2 t.minute ++ " UTC"

/-- The clock's first reading. -/
def epoch : Instant := ofParts ⟨2024, 1, 1⟩ 0 0 0 0

end Instant

end PlanCompiler
