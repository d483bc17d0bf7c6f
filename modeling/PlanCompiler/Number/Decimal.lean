import PlanCompiler.Number.Shortest
import PlanCompiler.Text.Run

/-!
# Numbers as decimal text

How a binary64 number is written, and the numerals that are read as one.

* `text`: the shortest digits that read back, positional from `0.0001` up to sixteen digits before
  the point, with an exponent outside that range;
* `numeral?`: a signed decimal numeral, or the name of an infinity or of not a number.
-/

namespace PlanCompiler.Binary64

/-- Exponents from this one on are written positionally … -/
def leastPositional : Int := -4

/-- … up to and without this one. -/
def firstScientific : Int := 16

/-- An exponent: a sign and at least two digits. -/
def exponentText (e : Int) : List Char :=
  let digits := Nat.toDigits 10 e.natAbs
  (if e < 0 then '-' else '+') :: (if digits.length < 2 then '0' :: digits else digits)

/-- Digits laid out with a point. An integer keeps one zero after the point. -/
def Digits.text (d : Digits) : List Char :=
  let e := d.point - 1
  if leastPositional ≤ e ∧ e < firstScientific then
    if d.point ≤ 0 then '0' :: '.' :: List.replicate (-d.point).toNat '0' ++ d.digits
    else
      let whole := d.digits.take d.point.toNat
      let fraction := d.digits.drop d.point.toNat
      whole ++ List.replicate (d.point.toNat - whole.length) '0' ++
        '.' :: (if fraction.isEmpty then ['0'] else fraction)
  else match d.digits with
    | [only] => only :: 'e' :: exponentText e
    | first :: others => first :: '.' :: others ++ 'e' :: exponentText e
    | [] => []

/-- The text of a number. -/
def text : Binary64 → List Char
  | .nan => "nan".toList
  | .infinite negative => (if negative then "-inf" else "inf").toList
  | .finite negative significand exponent =>
    (if negative then ['-'] else []) ++
      (if significand = 0 then "0.0".toList else (shortest significand exponent).text)

/-- A decimal digit. -/
def isDigit (c : Char) : Bool :=
  '0' ≤ c && c ≤ '9'

/-- The number written by decimal digits. -/
def natOfDigits (digits : List Char) : Nat :=
  digits.foldl (fun n c => 10 * n + (c.toNat - 0x30)) 0

/-- A sign, if there is one, and the rest. -/
def signed : List Char → Bool × List Char
  | '-' :: rest => (true, rest)
  | '+' :: rest => (false, rest)
  | s => (false, s)

/-- The integer written by an exponent part that follows the `e`: a sign or none, and digits. -/
def exponent? (s : List Char) : Option Int :=
  let (negative, digits) := signed s
  if !digits.isEmpty && digits.all isDigit then
    some (if negative then -(natOfDigits digits : Int) else natOfDigits digits)
  else none

/-- An unsigned decimal numeral with digits before or after an optional point, and an optional
exponent. -/
def unsigned? (negative : Bool) (s : List Char) : Option Binary64 :=
  let whole := s.takeWhile isDigit
  let afterWhole := s.dropWhile isDigit
  let (fraction, rest) := match afterWhole with
    | '.' :: r => (r.takeWhile isDigit, r.dropWhile isDigit)
    | r => ([], r)
  let finish (e : Int) : Binary64 :=
    ofDecimal negative (natOfDigits (whole ++ fraction)) (e - (fraction.length : Nat))
  if whole.isEmpty && fraction.isEmpty then none
  else match rest with
    | [] => some (finish 0)
    | c :: r => if c = 'e' ∨ c = 'E' then (exponent? r).map finish else none

/-- An ASCII letter in small form. -/
def asciiLower (c : Char) : Char :=
  if 'A' ≤ c ∧ c ≤ 'Z' then Char.ofNat (c.toNat + 0x20) else c

/-- The number a text denotes: a sign or none, then a decimal numeral, `inf`, `infinity` or `nan`,
the names in either case. -/
def numeral? (s : List Char) : Option Binary64 :=
  let (negative, rest) := signed s
  let name := rest.map asciiLower
  if name = "inf".toList ∨ name = "infinity".toList then some (.infinite negative)
  else if name = "nan".toList then some .nan
  else unsigned? negative rest

end PlanCompiler.Binary64
