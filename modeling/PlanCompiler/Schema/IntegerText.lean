import PlanCompiler.Number.Decimal

/-!
# Integers written as text

What a text must look like to be taken for an integer. A plain numeral is read as it is; any other
text is cleaned up first: white space around it, a plus sign, leading zeros behind a minus sign or
none, a point followed by zeros only, and single underscores between characters are taken away. A
plain numeral with more digits than the limit is told apart from a text that is none; a cleaned one
is not.

* `plain`: digits behind an optional minus sign, without a leading zero;
* `cleaned?`: the text without its trimmings;
* `read`: the integer of a text.
-/

namespace PlanCompiler.IntegerText

open Binary64 (isDigit natOfDigits)

/-- Why a text is not read as an integer. -/
inductive Fault
  | unreadable
  | oversized
  deriving DecidableEq, Repr

/-- How many digits an integer may have. -/
def digitLimit : Nat := 4300

/-- Digits without a leading zero. -/
def unsigned (s : List Char) : Except Fault Nat :=
  match s with
  | ['0'] => .ok 0
  | '0' :: _ => .error .unreadable
  | _ =>
    if digitLimit < (s.takeWhile isDigit).length then .error .oversized
    else if !s.isEmpty && s.all isDigit then .ok (natOfDigits s)
    else .error .unreadable

/-- A plain numeral: digits behind an optional minus sign, without a leading zero. -/
def plain : List Char → Except Fault Int
  | '-' :: s => (unsigned s).map fun n => -(n : Int)
  | s => (unsigned s).map fun n => (n : Int)

/-- The text after leading zeros and underscores of which the last one read is `last`: it goes on
with another digit, a minus sign, or a point behind a zero. -/
def afterZeros? (last : Char) : List Char → Option (List Char)
  | [] => some [last]
  | c :: rest =>
    if c = '0' ∨ c = '_' then afterZeros? c rest
    else if isDigit c ∨ c = '-' then some (c :: rest)
    else if c = '.' then some (last :: c :: rest)
    else none

/-- The text without leading zeros, if it begins like an integer. -/
def withoutLeadingZeros? : List Char → Option (List Char)
  | '0' :: rest => afterZeros? '0' rest
  | c :: rest => if isDigit c ∨ c = '-' then some (c :: rest) else none
  | [] => none

/-- The text without a point that is followed by zeros only, and by one at least. -/
def withoutZeroFraction (s : List Char) : List Char :=
  match s.dropWhile (· ≠ '.') with
  | '.' :: zeros =>
    if !zeros.isEmpty && zeros.all (· = '0') then s.takeWhile (· ≠ '.') else s
  | _ => s

/-- A text without its underscores, if they stand between other characters and one at a time. -/
def withoutUnderscores? (s : List Char) : Option (List Char) :=
  if s.head? = some '_' ∨ s.getLast? = some '_' ∨ (s.zip (s.drop 1)).contains ('_', '_') then none
  else some (s.filter (· ≠ '_'))

/-- The text without one plus sign in front. A minus sign may not follow it. -/
def withoutPlus? : List Char → Option (List Char)
  | '+' :: '-' :: _ => none
  | '+' :: s => some s
  | s => some s

/-- The text after a minus sign or none without its trimmings, if what is left may be a numeral. -/
def cleanedDigits? (s : List Char) : Option (List Char) := do
  withoutUnderscores? (withoutZeroFraction (← withoutLeadingZeros? s))

/-- The text without its trimmings, if what is left may be a numeral. -/
def cleaned? (s : List Char) : Option (List Char) := do
  match ← withoutPlus? (Text.trimOf Text.isSpace s) with
  | '-' :: rest => (cleanedDigits? rest).map ('-' :: ·)
  | rest => cleanedDigits? rest

/-- The integer of a text. -/
def read (s : List Char) : Except Fault Int :=
  match plain s with
  | .error .unreadable =>
    match cleaned? s with
    | some core => (plain core).mapError fun _ => .unreadable
    | none => .error .unreadable
  | result => result

end PlanCompiler.IntegerText
