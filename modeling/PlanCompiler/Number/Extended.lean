import PlanCompiler.Number.Binary64

/-!
# Numbers with 64 significant bits

Numbers that are not negative, with a significand of at most 64 bits and an exponent without bounds.
The result of an operation is the exact one rounded to the nearest number, a tie going to the even
significand.

* `ofScaled`: the nearest number to a quotient times a power of two;
* `mul`, `div`, `add`: one rounding each;
* `floor`, `fraction`: the whole part and what is left, both exact.
-/

namespace PlanCompiler

open Binary64 (twoTo roundedDiv scaled numerator denominator)

/-- The number `significand · 2 ^ exponent`. -/
structure Extended where
  significand : Nat
  exponent : Int
  deriving DecidableEq, Repr

namespace Extended

/-- How many bits a significand has at most. -/
def precision : Nat := 64

/-- The nearest number to `num / den · 2 ^ exponent`. -/
def ofScaled (num den : Nat) (exponent : Int) : Extended :=
  let guess : Int := (Nat.log2 num : Int) - (Nat.log2 den : Int) - (precision - 1 : Nat)
  let (n, d) := scaled num den guess
  let shift := if n < twoTo (precision - 1) * d then guess - 1 else guess
  let (n, d) := scaled num den shift
  ⟨roundedDiv n d, shift + exponent⟩

/-- An integer, rounded. -/
def ofNat (n : Nat) : Extended :=
  ofScaled n 1 0

/-- The product. -/
def mul (x y : Extended) : Extended :=
  ofScaled (x.significand * y.significand) 1 (x.exponent + y.exponent)

/-- The quotient. -/
def div (x y : Extended) : Extended :=
  ofScaled x.significand y.significand (x.exponent - y.exponent)

/-- The significand at an exponent that is not greater. -/
def significandAt (x : Extended) (exponent : Int) : Nat :=
  x.significand * twoTo (x.exponent - exponent).toNat

/-- The sum. -/
def add (x y : Extended) : Extended :=
  let exponent := min x.exponent y.exponent
  ofScaled (x.significandAt exponent + y.significandAt exponent) 1 exponent

/-- The first number is not greater than the second. -/
def le (x y : Extended) : Bool :=
  let exponent := min x.exponent y.exponent
  x.significandAt exponent ≤ y.significandAt exponent

/-- The whole part. -/
def floor (x : Extended) : Nat :=
  numerator x.significand x.exponent / denominator x.exponent

/-- What is left without the whole part. -/
def fraction (x : Extended) : Extended :=
  ⟨numerator x.significand x.exponent % denominator x.exponent, min x.exponent 0⟩

end Extended

end PlanCompiler
