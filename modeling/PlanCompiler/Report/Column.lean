import PlanCompiler.Number.Decimal
import PlanCompiler.Number.Extended
import PlanCompiler.Payload

/-!
# Columns of texts

What a column for texts keeps of a value that is stored in it. Numbers and truth values are turned
into texts on the way, a number with a fraction into its first fifteen digits. The digits are found
with 64 significant bits: the number is brought between one and ten, half a unit of the last digit
is added, and the digits are read off one by one.

* `Column.leading`: the digits of a number and the exponent of the first one;
* `Column.text`: the text that is kept, if one is.
-/

namespace PlanCompiler

/-- Why a value cannot be stored in a column. -/
inductive ColumnFault
  /-- An integer takes more than 64 bits. -/
  | tooLarge
  /-- The value is made of others. -/
  | notScalar
  deriving DecidableEq, Repr

namespace Column

/-- The bound of the integers that are stored. -/
def bound : Int := 0x8000000000000000

/-- How many digits of a number are kept. -/
def digitCount : Nat := 15

/-! ## Digits of a number -/

/-- The binary64 number nearest to `10 ^ 100`. -/
def hundredPlaces : Extended := ⟨0x1249ad2594c37d, 280⟩

/-- The binary64 number nearest to `10 ^ -8`. -/
def smallNumber : Extended := ⟨0x15798ee2308c3a, -79⟩

/-- The binary64 number nearest to `1 / 10`. -/
def tenth : Extended := ⟨0x1999999999999a, -56⟩

/-- Half a unit of the fifteenth digit: the product of the binary64 numbers nearest to `5 · 10 ^ -5`
and `10 ^ -10`, as a binary64 number. -/
def halfUnit : Extended := ⟨0x16849b86a12b9c, -100⟩

/-- More steps than a finite number takes. -/
def stepBound : Nat := 60

/-- A scale, and the exponent of ten that it stands for, multiplied by a step of so many places as
often as it stays at most the number. -/
def climb (x step : Extended) (places : Nat) :
    (steps : Nat) → Extended × Int → Extended × Int
  | 0, reached => reached
  | steps + 1, (scale, exponent) =>
    let next := step.mul scale
    if next.le x then climb x step places steps (next, exponent + places) else (scale, exponent)

/-- A number, and the exponent of ten that belongs to it, multiplied by `10 ^ places` as often as it
is below a limit. -/
def raise (limit : Extended) (places : Nat) :
    (steps : Nat) → Extended × Int → Extended × Int
  | 0, reached => reached
  | steps + 1, (x, exponent) =>
    if limit.le x then (x, exponent)
    else raise limit places steps
      (x.mul (.ofNat (Binary64.tenTo places)), exponent - places)

/-- A positive number brought between one and ten, and its exponent of ten. -/
def normalized (x : Extended) : Extended × Int :=
  let one := Extended.ofNat 1
  let (scale, exponent) := climb x (.ofNat 10) 1 stepBound
    (climb x (.ofNat (Binary64.tenTo 10)) 10 stepBound
      (climb x hundredPlaces 100 stepBound (one, 0)))
  raise one 1 stepBound (raise smallNumber 8 stepBound (x.div scale, exponent))

/-- So many digits of a number below ten. -/
def digits : (count : Nat) → Extended → List Char
  | 0, _ => []
  | count + 1, x => Nat.digitChar x.floor :: digits count (x.fraction.mul (.ofNat 10))

/-- The first digits of a positive number, and the exponent of ten of the first of them. -/
def leading (x : Extended) : List Char × Int :=
  let (x, exponent) := normalized x
  let x := x.add halfUnit
  if (Extended.ofNat 10).le x then (digits digitCount (x.mul tenth), exponent + 1)
  else (digits digitCount x, exponent)

/-! ## The text of a value -/

/-- Digits with a point between them; after it trailing zeros are left out, but not the first. -/
def withPoint (whole fraction : List Char) : List Char :=
  let kept := (fraction.reverse.dropWhile (· = '0')).reverse
  whole ++ '.' :: (if kept.isEmpty then ['0'] else kept)

/-- Digits laid out: positional where the exponent is at least `-4` and less than their number. -/
def laidOut (digits : List Char) (exponent : Int) : List Char :=
  if Binary64.leastPositional ≤ exponent ∧ exponent < digitCount then
    let point := exponent + 1
    if point ≤ 0 then withPoint ['0'] (List.replicate (-point).toNat '0' ++ digits)
    else withPoint (digits.take point.toNat) (digits.drop point.toNat)
  else withPoint (digits.take 1) (digits.drop 1) ++ 'e' :: Binary64.exponentText exponent

/-- The text of a number; zero has no sign, and one that is not a number is not kept. -/
def doubleText? (x : Binary64) : Option (List Char) :=
  let signed (negative : Bool) (s : List Char) : List Char := if negative then '-' :: s else s
  match x with
  | .nan => none
  | .infinite negative => some (signed negative "Inf".toList)
  | .finite negative significand exponent =>
    if significand = 0 then some "0.0".toList
    else
      let (digits, exponent) := leading ⟨significand, exponent⟩
      some (signed negative (laidOut digits exponent))

/-- The text that is kept of a value, none if nothing is. -/
def text (value : Payload) : Except ColumnFault (Option String) :=
  match value with
  | .null => .ok none
  | .boolean b => .ok (some (if b then "1" else "0"))
  | .integer i =>
    if -bound ≤ i ∧ i < bound then .ok (some (toString i)) else .error .tooLarge
  | .double x => .ok ((doubleText? x).map String.ofList)
  | .text s => .ok (some s)
  | _ => .error .notScalar

end Column

end PlanCompiler
