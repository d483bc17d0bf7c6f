/-!
# Runs of code points

Two compact shapes for tables over all of Unicode: a range of code points, and a run of letters
whose other-case form lies a fixed distance away.

* `inTable`, `inRanges`: membership of a code point, and of a character, in a table of ranges;
* `shiftOf?`: how far a table of runs moves a character, if it moves it at all.
-/

namespace PlanCompiler.Text.Letter

/-- The code points from `first` to `last`, both included. -/
structure CodeRange where
  first : Nat
  last : Nat
  deriving Repr

/-- Every `stride`-th code point from `first` to `last` has its other-case form `shift` places
further on. -/
structure CaseRun where
  first : Nat
  last : Nat
  stride : Nat
  shift : Int
  deriving Repr

/-- The code point lies in the range. -/
def CodeRange.contains (r : CodeRange) (code : Nat) : Bool :=
  r.first ≤ code && code ≤ r.last

/-- The run moves this code point. -/
def CaseRun.covers (r : CaseRun) (code : Nat) : Bool :=
  r.first ≤ code && code ≤ r.last && (code - r.first) % r.stride == 0

/-- Some range of the table contains the code point. -/
def inTable (table : List CodeRange) (code : Nat) : Bool :=
  table.any (·.contains code)

/-- Some range of the table contains the character. -/
def inRanges (table : List CodeRange) (c : Char) : Bool :=
  inTable table c.toNat

/-- The distance by which the table moves a character, `none` for one it leaves alone. -/
def shiftOf? (table : List CaseRun) (c : Char) : Option Int :=
  (table.find? (·.covers c.toNat)).map (·.shift)

/-- The character `shift` places further on. -/
def moved (c : Char) (shift : Int) : Char :=
  Char.ofNat ((c.toNat : Int) + shift).toNat

end PlanCompiler.Text.Letter
