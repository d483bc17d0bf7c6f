import PlanCompiler.Payload
import PlanCompiler.Schema.IntegerText
import PlanCompiler.Text.Digit

/-!
# The limit of a listing

How many reports a listing shows at most. The limit is a number, a truth value or a text that writes
an integer; nothing and a negative number are no limit.

* `ListLimit.read`: the limit that a payload stands for.
-/

namespace PlanCompiler

/-- Why a payload is no limit. -/
inductive LimitFault
  | notNumeral (text : String)
  | tooManyDigits (count : Nat)
  | notFinite (value : Binary64)
  | notNumber (value : Payload)
  | outOfRange
  deriving DecidableEq, Repr

namespace ListLimit

/-- A finite number without its fraction. -/
def truncated? : Binary64 → Option Int
  | .finite negative significand exponent =>
    let whole := Binary64.numerator significand exponent / Binary64.denominator exponent
    some (if negative then -(whole : Int) else whole)
  | _ => none

/-- White space of ASCII. -/
def isAsciiSpace (c : Char) : Bool :=
  c = ' ' || ('\t' ≤ c && c ≤ '\r')

/-- A text in ASCII as far as it writes an integer: white space beyond ASCII as spaces, digits as
ASCII digits. A text in ASCII stays as it is. -/
def inAscii (s : List Char) : List Char :=
  s.map fun c =>
    if c.toNat < 0x80 then c else if Text.isBlank c then ' ' else Text.asciiDigit c

/-- The integer that a text writes: a sign or none, and digits with single underscores between them;
white space around them. That there are too many digits is told before what follows them. -/
def ofText (s : String) : Except LimitFault Int :=
  let (negative, unsigned) := Binary64.signed (Text.trimOf isAsciiSpace (inAscii s.toList))
  let isPart (c : Char) : Bool := Binary64.isDigit c || c = '_'
  match IntegerText.withoutUnderscores? (unsigned.takeWhile isPart) with
  | none | some [] => .error (.notNumeral s)
  | some digits =>
    let n : Int := Binary64.natOfDigits digits
    if IntegerText.digitLimit < digits.length then .error (.tooManyDigits digits.length)
    else if !(unsigned.dropWhile isPart).isEmpty then .error (.notNumeral s)
    else .ok (if negative then -n else n)

/-- The integer that a payload stands for, if it is there. -/
def integer : Payload → Except LimitFault (Option Int)
  | .null => .ok none
  | .boolean value => .ok (some (if value then 1 else 0))
  | .integer value => .ok (some value)
  | .double value =>
    match truncated? value with
    | some i => .ok (some i)
    | none => .error (.notFinite value)
  | .text value => (ofText value).map some
  | p => .error (.notNumber p)

/-- The bound of a signed 64-bit integer. -/
def bound : Int := 0x8000000000000000

/-- The limit that a payload stands for; `none` when there is no limit. -/
def read (p : Payload) : Except LimitFault (Option Nat) :=
  match integer p with
  | .error fault => .error fault
  | .ok none => .ok none
  | .ok (some i) =>
    if i < -bound ∨ bound ≤ i then .error .outOfRange
    else .ok (if i < 0 then none else some i.toNat)

end ListLimit

end PlanCompiler
