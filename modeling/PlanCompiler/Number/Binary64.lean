/-!
# Binary64 numbers

Floating-point numbers with a 53-bit significand, as a type of their own and without machine
arithmetic: a finite number is `significand · 2 ^ exponent`, kept in the one normal form in which
the significand fills its 53 bits or the exponent is the least one.

* `ofRatio`: the nearest number to a quotient, a tie going to the even significand;
* `numerator`, `denominator`, `toInt?`: the exact value of a finite number.
-/

namespace PlanCompiler

/-- A binary64 number. -/
inductive Binary64
  | nan
  | infinite (negative : Bool)
  | finite (negative : Bool) (significand : Nat) (exponent : Int)
  deriving DecidableEq, Repr

namespace Binary64

/-- A power of two. -/
def twoTo (exponent : Nat) : Nat :=
  Nat.pow 2 exponent

/-- A power of ten. -/
def tenTo (exponent : Nat) : Nat :=
  Nat.pow 10 exponent

/-- The least exponent. -/
def minExponent : Int := -1074

/-- The greatest exponent. -/
def maxExponent : Int := 971

/-- Zero with the given sign. -/
def zero (negative : Bool) : Binary64 :=
  .finite negative 0 minExponent

/-- Neither an infinity nor not a number. -/
def isFinite : Binary64 → Bool
  | .finite .. => true
  | _ => false

/-- Equal to zero, whatever the sign. -/
def isZero : Binary64 → Bool
  | .finite _ significand _ => significand = 0
  | _ => false

/-- Greater than or equal to zero. Not a number is not. -/
def isNonNegative : Binary64 → Bool
  | .nan => false
  | .infinite negative => !negative
  | .finite negative significand _ => !negative || significand = 0

/-- Less than or equal to zero. Not a number is not. -/
def isNonPositive : Binary64 → Bool
  | .nan => false
  | .infinite negative => negative
  | .finite negative significand _ => negative || significand = 0

/-- The same number with the given sign. -/
def withSign (negative : Bool) : Binary64 → Binary64
  | .nan => .nan
  | .infinite _ => .infinite negative
  | .finite _ significand exponent => .finite negative significand exponent

/-- A quotient rounded to the nearest integer, a half going to the even neighbour. -/
def roundedDiv (n d : Nat) : Nat :=
  let floor := n / d
  let twice := 2 * (n % d)
  if twice < d then floor else if d < twice then floor + 1 else floor + floor % 2

/-- Numerator and denominator of `num / den / 2 ^ exponent`. -/
def scaled (num den : Nat) (exponent : Int) : Nat × Nat :=
  (num * twoTo (-exponent).toNat, den * twoTo exponent.toNat)

/-- The exponent for a quotient: the significand has 53 bits then, or fewer at the least one. -/
def exponentOf (num den : Nat) : Int :=
  let guess : Int := (Nat.log2 num : Int) - (Nat.log2 den : Int) - 52
  let (n, d) := scaled num den guess
  max minExponent (if n < twoTo 52 * d then guess - 1 else guess)

/-- The nearest number to `num / den`, a tie going to the even significand, and what is too large
to the infinity of its sign. -/
def ofRatio (negative : Bool) (num den : Nat) : Binary64 :=
  if num = 0 then zero negative
  else
    let exponent := exponentOf num den
    let (n, d) := scaled num den exponent
    let significand := roundedDiv n d
    let carried := significand = twoTo 53
    let significand := if carried then twoTo 52 else significand
    let exponent := if carried then exponent + 1 else exponent
    if maxExponent < exponent then .infinite negative else .finite negative significand exponent

/-- The nearest number to an integer, `none` when it lies beyond all finite numbers. -/
def ofInt? (i : Int) : Option Binary64 :=
  match ofRatio (i < 0) i.natAbs 1 with
  | .infinite _ => none
  | x => some x

/-- The nearest number to `digits · 10 ^ exponent`. Beyond the exponents at which every number is
infinite or zero the power is not computed. -/
def ofDecimal (negative : Bool) (digits : Nat) (exponent : Int) : Binary64 :=
  let magnitude := (Nat.log2 digits : Int) / 3 + exponent
  if digits = 0 then zero negative
  else if 400 < exponent then .infinite negative
  else if magnitude < -500 then zero negative
  else ofRatio negative (digits * tenTo exponent.toNat) (tenTo (-exponent).toNat)

/-- The numerator of `significand · 2 ^ exponent`. -/
def numerator (significand : Nat) (exponent : Int) : Nat :=
  significand * twoTo exponent.toNat

/-- The denominator of `significand · 2 ^ exponent`. -/
def denominator (exponent : Int) : Nat :=
  twoTo (-exponent).toNat

/-- The number as an integer, if it is one. -/
def toInt? : Binary64 → Option Int
  | .finite negative significand exponent =>
    let n := numerator significand exponent
    let d := denominator exponent
    if n % d = 0 then some (if negative then -(n / d : Nat) else (n / d : Nat)) else none
  | _ => none

end Binary64

end PlanCompiler
