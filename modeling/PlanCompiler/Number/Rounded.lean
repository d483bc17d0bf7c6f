import PlanCompiler.Number.Decimal

/-!
# Numbers with a given number of digits

A binary64 number rounded to so many decimal places, or to so many digits, a tie going to the even
last digit. The value that is rounded is the exact one.

* `fixedText`: so many places after the point;
* `scientificText`: one digit before the point, so many after it, and an exponent;
* `generalText`: so many digits, in whichever of the two forms suits the size.
-/

namespace PlanCompiler.Binary64

/-- How a number with a given number of digits is laid out. -/
structure Layout where
  /-- How many digits: places after the point, or digits in all. -/
  precision : Nat
  /-- How many zeros come after the last of these digits. -/
  zeros : Nat := 0
  /-- The point stands even where no digit follows it, and trailing zeros stay. -/
  keepsPoint : Bool := false
  deriving DecidableEq, Repr

/-- So many digits that only zeros follow them in any number, whichever way they are counted. -/
def exactPrecision : Nat := 1100

/-- A layout with so many digits: those that need not be zeros, and the zeros. -/
def Layout.ofPrecision (keepsPoint : Bool) (precision : Nat) : Layout :=
  { precision := min precision exactPrecision, zeros := precision - exactPrecision, keepsPoint }

/-- The decimal digits of a number, filled up with zeros in front to the given count. -/
def paddedDigits (count n : Nat) : List Char :=
  let digits := Nat.toDigits 10 n
  List.replicate (count - digits.length) '0' ++ digits

/-- Digits with a point before the last `places` of them, and the zeros of the layout. -/
def Layout.pointed (layout : Layout) (places : Nat) (digits : List Char) : List Char :=
  let split := digits.length - places
  digits.take split ++
    (if places = 0 && !layout.keepsPoint then [] else '.' :: digits.drop split) ++
    List.replicate layout.zeros '0'

/-- The quotient `num / den` as digits of which `places` come after the point. -/
def fixedDigits (num den places : Nat) : List Char :=
  paddedDigits (places + 1) (roundedDiv (num * tenTo places) den)

/-- The first `places + 1` digits of a quotient, and the exponent of the first of them. -/
def scientificDigits (num den places : Nat) : List Char × Int :=
  if num = 0 then (List.replicate (places + 1) '0', 0)
  else
    let exponent := magnitude num den - 1
    let shift : Int := places - exponent
    let n := roundedDiv (num * tenTo shift.toNat) (den * tenTo (-shift).toNat)
    if n = tenTo (places + 1) then (Nat.toDigits 10 (tenTo places), exponent + 1)
    else (Nat.toDigits 10 n, exponent)

/-- Digits without the zeros at their end, and without a point that is left over. -/
def withoutTrailingZeros (s : List Char) : List Char :=
  let core := (s.reverse.dropWhile (· = '0')).reverse
  if core.getLast? = some '.' then core.dropLast else core

/-- A quotient with so many places after the point. -/
def fixedText (layout : Layout) (num den : Nat) : List Char :=
  layout.pointed layout.precision (fixedDigits num den layout.precision)

/-- A quotient with one digit before the point, so many after it, and an exponent. -/
def scientificText (layout : Layout) (num den : Nat) : List Char :=
  let (digits, exponent) := scientificDigits num den layout.precision
  layout.pointed layout.precision digits ++ 'e' :: exponentText exponent

/-- A quotient with so many digits, at least one: positional where the exponent is at least `-4` and
less than the number of digits. -/
def generalText (layout : Layout) (num den : Nat) : List Char :=
  let count := max 1 layout.precision
  let (digits, exponent) := scientificDigits num den (count - 1)
  let trimmed (s : List Char) : List Char :=
    if layout.keepsPoint || !s.contains '.' then s else withoutTrailingZeros s
  if leastPositional ≤ exponent ∧ exponent < count then
    let places := ((count : Int) - 1 - exponent).toNat
    trimmed (layout.pointed places (List.replicate (places + 1 - digits.length) '0' ++ digits))
  else trimmed (layout.pointed (count - 1) digits) ++ 'e' :: exponentText exponent

/-- The three forms of a number with a given number of digits. -/
inductive Form
  | fixed
  | scientific
  | general
  deriving DecidableEq, Repr

/-- A number without its sign. -/
def unsignedText (form : Form) (layout : Layout) : Binary64 → List Char
  | .nan => "nan".toList
  | .infinite _ => "inf".toList
  | .finite _ significand exponent =>
    let num := numerator significand exponent
    let den := denominator exponent
    match form with
    | .fixed => fixedText layout num den
    | .scientific => scientificText layout num den
    | .general => generalText layout num den

/-- The number has a minus sign. Not a number has none. -/
def isNegative : Binary64 → Bool
  | .nan => false
  | .infinite negative => negative
  | .finite negative _ _ => negative

end PlanCompiler.Binary64
