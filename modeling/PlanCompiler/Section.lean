import PlanCompiler.Text.Run
import PlanCompiler.Text.Case

/-!
# Sections

The parts of a report. Five sections have a fixed place and title, any other key makes a section of
its own, and what has no section is put under a last one.

* `ordered`: the keys of a list in the order of the report;
* `heading`: the title of a section; an unknown key is split into words at the capitals inside it.
-/

namespace PlanCompiler.Section

open Text

/-- The key of strategies without a section. -/
def uncategorized : String := "uncategorized"

/-- The sections that come first, in this order. -/
def canonical : List String :=
  ["recommendations", "buildNetWorth", "implementingTaxStrategies", "protectingWhatMatters",
    "leavingALegacy"]

/-- The sections with a title of their own. -/
def titles : List (String × String) :=
  [("recommendations", "RECOMMENDATIONS"), ("buildNetWorth", "BUILD NET WORTH"),
    ("implementingTaxStrategies", "IMPLEMENTING TAX EFFICIENT STRATEGIES"),
    ("protectingWhatMatters", "PROTECTING WHAT MATTERS"), ("leavingALegacy", "LEAVING A LEGACY"),
    (uncategorized, "ADDITIONAL STRATEGIES")]

/-- Neither of a fixed place nor the last section. -/
def isUnknown (key : String) : Bool :=
  !canonical.contains key && key ≠ uncategorized

/-- The key under which a strategy is listed. -/
def keyOf : Option String → String
  | none => uncategorized
  | some key => if key.isEmpty then uncategorized else key

/-- The keys of a list, each once: the canonical ones in their order, the unknown ones in order of
first occurrence, the last section at the end. -/
def ordered (keys : List String) : List String :=
  canonical.filter keys.contains ++ keys.eraseDups.filter isUnknown ++
    (if keys.contains uncategorized then [uncategorized] else [])

/-- A capital letter of the ASCII alphabet. -/
def isCapital (c : Char) : Bool :=
  'A' ≤ c && c ≤ 'Z'

/-- A small letter of the ASCII alphabet or a digit. -/
def isSmall (c : Char) : Bool :=
  ('a' ≤ c && c ≤ 'z') || ('0' ≤ c && c ≤ '9')

/-- A space put wherever a capital follows a small letter or a digit. -/
def spaced : List Char → List Char
  | [] => []
  | [c] => [c]
  | c :: next :: rest =>
    if isSmall c && isCapital next then c :: ' ' :: spaced (next :: rest)
    else c :: spaced (next :: rest)

/-- Underscores and hyphens separate words like spaces. -/
def separated (c : Char) : Char :=
  if c = '_' ∨ c = '-' then ' ' else c

/-- The words of a key, in capitals and joined by single spaces. -/
def wordsOf (key : List Char) : List Char :=
  upper (joined [' '] (words ((spaced key).map separated)))

/-- The title of a section. -/
def heading (key : String) : String :=
  match titles.lookup key with
  | some title => title
  | none => String.ofList (wordsOf key.toList)

end PlanCompiler.Section
