import PlanCompiler.Instant
import PlanCompiler.Schema.Coercion

/-!
# Moments

A point in time as clients send and receive it: a date and a time of day, with or without an offset
from UTC. It is read from a text, where a date alone stands for its midnight, and from a number of
seconds or milliseconds since 1970, which is in UTC.

* `Moment.read`: the moment of a payload;
* `Moment.iso`, `Moment.isoUtc`: its written form, where UTC is an offset or has a letter of its
  own.
-/

namespace PlanCompiler

open Binary64 (isDigit natOfDigits)

/-- A point in time as it is written. -/
structure Moment where
  /-- Date and time of day where the offset holds. -/
  reading : Instant
  /-- Seconds ahead of UTC, if that is known. -/
  offset : Option Int := none
  deriving DecidableEq, Repr

namespace Moment

open Schema

/-- An offset as a sign, hours and minutes. -/
def offsetText (seconds : Int) : String :=
  let minutes := seconds.natAbs / 60
  (if seconds < 0 then "-" else "+") ++ Instant.padded 2 (minutes / 60) ++ ":" ++
    Instant.padded 2 (minutes % 60)

/-- The written form. -/
def iso (m : Moment) : String :=
  m.reading.iso ++ (m.offset.map offsetText).getD ""

/-- The written form with a letter for UTC. -/
def isoUtc (m : Moment) : String :=
  if m.offset = some 0 then m.reading.iso ++ "Z" else m.iso

/-- Two digits as a number, and the rest. -/
def twoDigits? : List Char → Option (Nat × List Char)
  | a :: b :: rest => if isDigit a && isDigit b then some (natOfDigits [a, b], rest) else none
  | _ => none

/-- The date at the head of a text, and the rest. Its length is counted in bytes. -/
def readDate (s : List Char) : Except MomentFault (Date × List Char) :=
  if (String.ofList s).utf8ByteSize < 10 then .error .tooShort
  else
    let year := s.take 4
    if !year.all isDigit then .error .badYear
    else if s[4]? ≠ some '-' then .error .badSeparator
    else match twoDigits? (s.drop 5) with
      | none => .error .badMonth
      | some (month, afterMonth) =>
        if afterMonth.head? ≠ some '-' then .error .badSeparator
        else match twoDigits? (afterMonth.drop 1) with
          | none => .error .badDay
          | some (day, rest) =>
            if month = 0 ∨ 12 < month then .error .monthOutOfRange
            else if day = 0 ∨ Date.monthLength (natOfDigits year) month < day then
              .error .dayOutOfRange
            else .ok (⟨natOfDigits year, month, day⟩, rest)

/-- Seconds and microseconds, which may be left out; digits after the sixth are dropped. -/
def readSeconds? : List Char → Option (Nat × Nat × List Char)
  | ':' :: s => do
    let (second, rest) ← twoDigits? s
    if 59 < second then none
    else match rest with
      | c :: after =>
        if c = '.' ∨ c = ',' then
          let fraction := after.takeWhile isDigit
          let micros := (fraction ++ List.replicate (6 - fraction.length) '0').take 6
          if fraction.isEmpty then none
          else some (second, natOfDigits micros, after.dropWhile isDigit)
        else some (second, 0, rest)
      | [] => some (second, 0, [])
  | s => some (0, 0, s)

/-- Hours and minutes of an offset, with or without a colon, in seconds. -/
def readOffset? (s : List Char) : Option Int := do
  let (hours, rest) ← twoDigits? s
  let (minutes, rest) ← twoDigits? (if rest.head? = some ':' then rest.drop 1 else rest)
  let seconds := hours * 3600 + minutes * 60
  if rest.isEmpty && minutes < 60 && seconds < 86400 then some seconds else none

/-- The offset with which a text ends, if there is one. -/
def readEnd? : List Char → Option (Option Int)
  | [] => some none
  | c :: rest =>
    if (c = 'Z' ∨ c = 'z') ∧ rest = [] then some (some 0)
    else if c = '+' then (readOffset? rest).map some
    else if c = '-' ∨ c = '\u2212' then (readOffset? rest).map fun seconds => some (-seconds)
    else none

/-- The time of day after a date, in microseconds, and the offset. -/
def readTime? : List Char → Option (Nat × Option Int)
  | mark :: s => do
    if !(['T', 't', ' ', '_'].contains mark) then none
    else
      let (hour, rest) ← twoDigits? s
      match rest with
      | ':' :: s =>
        let (minute, rest) ← twoDigits? s
        let (second, micro, rest) ← readSeconds? rest
        let offset ← readEnd? rest
        if 23 < hour ∨ 59 < minute then none
        else some ((hour * 60 + minute) * Instant.perMinute + second * Instant.perSecond + micro,
          offset)
      | _ => none
  | [] => none

/-- How many seconds since 1970 a number may be; a greater one counts milliseconds. -/
def secondsLimit : Nat := 20000000000

/-- The beginning of 1970. -/
def unixEpoch : Instant := Instant.ofParts ⟨1970, 1, 1⟩ 0 0 0 0

/-- The beginning of the year 0, in microseconds from that of the year 1. -/
def earliest : Int := -(366 * Instant.perDay : Nat)

/-- The beginning of the year 10000. -/
def tooLate : Instant := Instant.ofParts ⟨10000, 1, 1⟩ 0 0 0 0

/-- Microseconds since the beginning of the year 1 that lie in the years 0 to 9999. -/
def inRange (micros : Int) : Except MomentFault Int :=
  if micros < earliest then .error .tooEarly
  else if (tooLate.micros : Int) ≤ micros then .error .tooLate
  else .ok micros

/-- The time, in microseconds since the beginning of the year 1, that lies so many seconds or
milliseconds after the beginning of 1970. -/
def ofCount (count : Int) : Except MomentFault Int :=
  let unit : Int := if count.natAbs ≤ secondsLimit then Instant.perSecond else Instant.perMilli
  inRange (unixEpoch.micros + count * unit)

/-- A fraction of a unit of so many microseconds, in microseconds: the fraction and its multiple are
rounded to binary64 numbers, and the latter to an integer, a half going up. -/
def fractionMicros (unit num den : Nat) : Nat :=
  match Binary64.ofRatio false num den with
  | .finite _ significand exponent =>
    match Binary64.ofRatio false (Binary64.numerator significand exponent * unit)
        (Binary64.denominator exponent) with
    | .finite _ significand exponent =>
      let d := Binary64.denominator exponent
      (2 * Binary64.numerator significand exponent + d) / (2 * d)
    | _ => 0
  | _ => 0

/-- The time of a number of seconds, or of milliseconds when it is too great for one: the whole part
below it, and the fraction above that. -/
def ofNumber : Binary64 → Except MomentFault Int
  | .nan => .error .notANumber
  | .infinite negative => .error (if negative then .tooEarly else .tooLate)
  | .finite negative significand exponent =>
    let num := Binary64.numerator significand exponent
    let den := Binary64.denominator exponent
    let unit := if num ≤ secondsLimit * den then Instant.perSecond else Instant.perMilli
    let whole : Int := (num / den : Nat)
    let rest := num % den
    let (below, above) : Int × Nat :=
      if !negative then (whole, rest)
      else if rest = 0 then (-whole, 0)
      else (-whole - 1, den - rest)
    inRange (unixEpoch.micros + below * unit + fractionMicros unit above den)

/-- The integer that a text writes in decimal digits, with a sign or without, if it has 64 bits. -/
def countOfText? (s : List Char) : Option Int :=
  let (negative, digits) := Binary64.signed s
  let n : Int := natOfDigits digits
  let count := if negative then -n else n
  if !digits.isEmpty && digits.all isDigit && decide (-wordBound ≤ count ∧ count < wordBound) then
    some count
  else none

/-- The number that a text writes with a decimal point. -/
def decimalOfText? (s : List Char) : Option Binary64 :=
  let (negative, unsigned) := Binary64.signed s
  if (unsigned.dropWhile isDigit).head? = some '.' then Binary64.unsigned? negative unsigned
  else none

/-- The moment of a text that is a date and a time. -/
def ofDateTime? (s : List Char) : Option (Date × Nat × Option Int) :=
  match readDate s with
  | .ok (date, rest) => (readTime? rest).map fun (micros, offset) => (date, micros, offset)
  | .error _ => none

/-- The midnight of a text that is a date alone. -/
def ofDate (s : List Char) : Except MomentFault Date :=
  match readDate s with
  | .ok (date, []) => .ok date
  | .ok _ => .error .trailing
  | .error fault => .error fault

/-- A date and a time of day put together. No year is zero. -/
def ofParts (p : Payload) (date : Date) (micros : Nat) (offset : Option Int) : Checked Moment :=
  if date.year = 0 then .fail (.badMoment .yearZero) p
  else .valid { reading := ⟨date.toDays * Instant.perDay + micros⟩, offset }

/-- The moment of a time that was computed from a number; it is in UTC. -/
def ofTime (p : Payload) (micros : Int) : Checked Moment :=
  if micros < 0 then .fail (.badMoment .yearZero) p
  else .valid { reading := ⟨micros.toNat⟩, offset := some 0 }

/-- A time that was computed from a number, or what is wrong with it. -/
def ofComputed (p : Payload) (fault : MomentFault → Fault) : Except MomentFault Int → Checked Moment
  | .ok micros => ofTime p micros
  | .error cause => .fail (fault cause) p

/-- Read a text: a date and a time, an integer, a decimal number, a date alone. -/
def ofText (p : Payload) (s : List Char) : Checked Moment :=
  match ofDateTime? s, countOfText? s, (decimalOfText? s).bind fun x => (ofNumber x).toOption with
  | some (date, micros, offset), _, _ => ofParts p date micros offset
  | none, some count, _ => ofComputed p .badDate (ofCount count)
  | none, none, some micros => ofTime p micros
  | none, none, none => match ofDate s with
    | .ok date => ofParts p date 0 none
    | .error fault => .fail (.badDate fault) p

/-- Read an integer. One beyond 64 bits is taken for the number nearest to it. -/
def ofInteger (p : Payload) (count : Int) : Checked Moment :=
  if -wordBound ≤ count ∧ count < wordBound then ofComputed p .badMoment (ofCount count)
  else match Binary64.ofInt? count with
    | some x => ofComputed p .badMoment (ofNumber x)
    | none => .fail .notMoment p

/-- Read a moment. -/
def read (p : Payload) : Checked Moment :=
  match p with
  | .text value => ofText p (Text.toPlain value.toList)
  | .integer value => ofInteger p value
  | .double value => ofComputed p .badMoment (ofNumber value)
  | _ => .fail .notMoment p

end Moment

end PlanCompiler
