import PlanCompiler.Text.Letter.Lower
import PlanCompiler.Text.Letter.Upper
import PlanCompiler.Text.Letter.Context
import PlanCompiler.Text.Run

/-!
# Small and capital letters, and slugs

Whole texts in small or in capital letters, over all of Unicode. A letter may turn into several
characters, and capital sigma is written small in two ways: `ς` at the end of a word, `σ` elsewhere.

A slug is a title reduced to what fits into an id and into the path of an address: runs of small
letters and digits joined by single hyphens.

* `lower`, `upper`: the text in small letters and in capitals;
* `slug`: the slug of a title.
-/

namespace PlanCompiler.Text

open Letter

/-- The small form of a character that does not look at its neighbours. -/
def lowerChar (c : Char) : List Char :=
  if c.toNat < 0x80 then [if 'A' ≤ c ∧ c ≤ 'Z' then Char.ofNat (c.toNat + 0x20) else c]
  else if c.toNat = 0x130 then ['i', Char.ofNat 0x307]
  else match shiftOf? lowerRuns c with
    | some shift => [moved c shift]
    | none => [c]

/-- The capital form of a character. -/
def upperChar (c : Char) : List Char :=
  if c.toNat < 0x80 then [if 'a' ≤ c ∧ c ≤ 'z' then Char.ofNat (c.toNat - 0x20) else c]
  else match upperExpansions.lookup c.toNat with
    | some codes => codes.map Char.ofNat
    | none => match shiftOf? upperRuns c with
      | some shift => [moved c shift]
      | none => [c]

/-- The character is passed over when a neighbour with a case is looked for. -/
def isPassed (c : Char) : Bool :=
  inRanges passedRanges c

/-- The character has a case and is not passed over. -/
def isCased (c : Char) : Bool :=
  inRanges casedRanges c

/-- The first character that is not passed over has a case. -/
def startsCased (s : List Char) : Bool :=
  (s.find? (!isPassed ·)).any isCased

/-- Small letters, given whether the last character before that is not passed over has a case. A
sigma after a letter and not before one closes its word. -/
def lowerAfter (cased : Bool) : List Char → List Char
  | [] => []
  | c :: rest =>
    (if c.toNat = 0x3A3 then [Char.ofNat (if cased && !startsCased rest then 0x3C2 else 0x3C3)]
      else lowerChar c) ++
    lowerAfter (if isPassed c then cased else isCased c) rest

/-- A text in small letters. -/
def lower (s : List Char) : List Char :=
  lowerAfter false s

/-- A text in capitals. -/
def upper (s : List Char) : List Char :=
  s.flatMap upperChar

/-- A small ASCII letter or a digit. -/
def isSlugChar (c : Char) : Bool :=
  ('a' ≤ c && c ≤ 'z') || ('0' ≤ c && c ≤ '9')

/-- What stands in for a title without a single usable character. -/
def emptySlug : List Char := "strategy".toList

/-- The runs of letters and digits of a title, in small letters and joined by hyphens. -/
def slug (title : List Char) : List Char :=
  match runs isSlugChar (lower title) with
  | [] => emptySlug
  | parts => joined ['-'] parts

end PlanCompiler.Text
