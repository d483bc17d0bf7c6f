import PlanCompiler.Number.Binary64

/-!
# Shortest decimals

The decimal with the fewest digits that reads back as a given binary64 number; among those of equal
length the nearest one, a tie going to the even last digit.

* `shortest`: digits and position of the decimal point.
-/

namespace PlanCompiler.Binary64

/-- A positive decimal `0.d₁d₂… · 10 ^ point`, without trailing zeros. -/
structure Digits where
  digits : List Char
  point : Int

/-- The reals that round to a number: a lower and an upper bound in quarters of its last place. -/
structure Interval where
  low : Nat
  high : Nat
  closed : Bool

/-- Half a place to both sides, but a quarter downwards where the places below are half as wide. -/
def interval (significand : Nat) (exponent : Int) : Interval where
  low := 4 * significand - (if significand = twoTo 52 && minExponent < exponent then 1 else 2)
  high := 4 * significand + 2
  closed := significand % 2 = 0

/-- The point of a decimal grid lies in the interval: `point · unit` compared with the bounds times
`quarter`, all over one denominator. -/
def Interval.holds (i : Interval) (quarter unit point : Nat) : Bool :=
  let x := point * unit
  if i.closed then i.low * quarter ≤ x && x ≤ i.high * quarter
  else i.low * quarter < x && x < i.high * quarter

/-- How many decimal digits a number has. -/
def decimalLength (n : Nat) : Nat :=
  (Nat.toDigits 10 n).length

/-- The `k` with `10 ^ (k - 1) ≤ num / den < 10 ^ k`, for a positive quotient. -/
def magnitude (num den : Nat) : Int :=
  let guess : Int := (decimalLength num : Int) - (decimalLength den : Int)
  if num * tenTo (-guess).toNat < den * tenTo guess.toNat then guess else guess + 1

/-- The point of the grid with `count` digits that reads back as the number, if one of the number's
two neighbours on that grid does. -/
def onGrid (significand : Nat) (exponent : Int) (point : Int) (count : Nat) : Option Nat :=
  -- one grid step is `10 ^ step`; numerator and denominator of the number over it
  let step : Int := point - count
  let num := numerator significand exponent * tenTo (-step).toNat
  let den := denominator exponent * tenTo step.toNat
  -- a quarter of the last place of the number, over the same denominator
  let quarter := twoTo exponent.toNat * tenTo (-step).toNat
  let range := interval significand exponent
  let below := num / den
  let rest := num % den
  let lower := range.holds quarter (4 * den) below
  let upper := range.holds quarter (4 * den) (below + 1)
  if lower && upper then
    some (if 2 * rest < den then below else if den < 2 * rest then below + 1 else below + below % 2)
  else if lower then some below
  else if upper then some (below + 1)
  else none

/-- Digits of a grid point, trailing zeros dropped. -/
def gridDigits (step : Int) (n : Nat) : Digits :=
  let digits := Nat.toDigits 10 n
  { digits := (digits.reverse.dropWhile (· = '0')).reverse
    point := step + (digits.length : Nat) }

/-- The shortest decimal that reads back as the positive number `significand · 2 ^ exponent`. -/
def shortest (significand : Nat) (exponent : Int) : Digits :=
  let point := magnitude (numerator significand exponent) (denominator exponent)
  let found? := (List.range 17).findSome? fun i =>
    (onGrid significand exponent point (i + 1)).map fun n => (point - ((i + 1 : Nat) : Int), n)
  match found? with
  | some (step, n) => gridDigits step n
  | none => gridDigits 0 0

end PlanCompiler.Binary64
