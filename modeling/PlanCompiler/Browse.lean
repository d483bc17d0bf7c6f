import PlanCompiler.Section
import PlanCompiler.Strategy.Basic

/-!
# Browsing the catalog

The catalog as a client looks through it: filtered by a search text and a section, and grouped by
section and subsection.

* `select`: the strategies that pass both filters, in their order;
* `organize`: groups in the order of the report, members by title, subsections by name.
-/

namespace PlanCompiler

open Text

namespace Browse

/-- The section filter that lets everything through. -/
def allSections : String := "all"

/-- The texts of a strategy that a search looks at. Empty ones are not looked at. -/
def searchedTexts (s : Strategy) : List String :=
  [s.title, s.content, s.description, s.category, s.subsection.getD ""].filter (!·.isEmpty)

/-- Some text of the strategy contains the search text, both in small letters. No search text and
an empty one match everything. -/
def matchesSearch (s : Strategy) : Option String → Bool
  | none => true
  | some search =>
    search.isEmpty ||
      (searchedTexts s).any fun text => occursIn (lower search.toList) (lower text.toList)

/-- The strategy is listed under the section. No section, an empty one and `all` match
everything. -/
def matchesSection (s : Strategy) : Option String → Bool
  | none => true
  | some key => key.isEmpty || key = allSections || Section.keyOf s.sectionKey = key

/-- The strategies that pass both filters. -/
def select (search section? : Option String) (strategies : List Strategy) : List Strategy :=
  strategies.filter fun s => matchesSearch s search && matchesSection s section?

/-- The subsection under which a strategy is listed. A category stands in for it only where there is
no section. -/
def groupingKey (s : Strategy) : Option String :=
  match s.subsection.filter (!·.isEmpty) with
  | some name => some name
  | none =>
    if (s.sectionKey.filter (!·.isEmpty)).isSome then none
    else if s.category.isEmpty then none else some s.category

/-- Items in the order of their names, by code point; items with equal names keep their order. -/
def sortedBy {α : Type} (name : α → String) (items : List α) : List α :=
  items.mergeSort fun a b => !isBefore (name b).toList (name a).toList

/-- Strategies in the order of their titles. -/
def byTitle (strategies : List Strategy) : List Strategy :=
  sortedBy (·.title) strategies

/-- The strategies of one section. -/
structure Group where
  key : String
  /-- Those without a subsection. -/
  direct : List Strategy
  subsections : Entries (List Strategy)
  deriving DecidableEq, Repr

namespace Group

/-- The title of the section. -/
def title (g : Group) : String :=
  Section.heading g.key

/-- All members: the direct ones, then those of the subsections. -/
def members (g : Group) : List Strategy :=
  g.direct ++ (Entries.values g.subsections).flatten

/-- How many members the group has. -/
def count (g : Group) : Nat :=
  (Entries.values g.subsections).foldl (fun n members => n + members.length) g.direct.length

end Group

/-- The group of a section, out of the strategies that are listed under it. -/
def groupOf (key : String) (members : List Strategy) : Group where
  key
  direct := byTitle (members.filter fun s => groupingKey s = none)
  subsections :=
    (sortedBy id (members.filterMap groupingKey).eraseDups).map fun name =>
      (name, byTitle (members.filter fun s => groupingKey s = some name))

/-- The selected strategies grouped for browsing. -/
def organize (search section? : Option String) (strategies : List Strategy) : List Group :=
  let selected := select search section? strategies
  (Section.ordered (selected.map fun s => Section.keyOf s.sectionKey)).map fun key =>
    groupOf key (selected.filter fun s => Section.keyOf s.sectionKey = key)

end Browse

end PlanCompiler
