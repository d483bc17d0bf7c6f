import PlanCompiler.Proofs.Entries
import PlanCompiler.Proofs.Section.Order
import PlanCompiler.Report.Compilation

/-!
# Putting a report together

The text of a report is that of its parts, one after another, without the blanks at the end. There
is one part for each section that comes up, and no strategy is lost or doubled on the way.

* `Part`, `Part.text`: a section with its strategies, and how it is written;
* `IsLayout`: the parts into which rendered strategies are laid out;
* `isLayout_parts`: the parts of a report are such;
* `assemble_lays_out`: the text of a report comes from its parts.
-/

namespace PlanCompiler.Report

open Text

/-- A section of a report and the strategies rendered in it. -/
structure Part where
  sectionKey : String
  items : List RenderedStrategy
  deriving DecidableEq, Repr

/-- A part as it is written: the heading on a line, each content between two line ends, and one more
line end. -/
def Part.text (p : Part) : String :=
  Section.heading p.sectionKey ++ "\n" ++
    String.join (p.items.map fun item => "\n" ++ item.content ++ "\n") ++ "\n"

/-- Rendered strategies are laid out in parts. -/
structure IsLayout (rendered : List RenderedStrategy) (parts : List Part) : Prop where
  distinct : (parts.map (·.sectionKey)).Nodup
  /-- A section has a part if and only if a strategy belongs to it. -/
  sections : ∀ key, key ∈ parts.map (·.sectionKey) ↔ ∃ item ∈ rendered, item.sectionKey = key
  ordered : (parts.map (·.sectionKey)).Pairwise
    (Section.Precedes (rendered.map (·.sectionKey)))
  /-- Strategies of one section keep their order. -/
  items : ∀ p ∈ parts, p.items = rendered.filter fun item => item.sectionKey = p.sectionKey
  complete : (parts.flatMap (·.items)).Perm rendered

/-- The parts of a report. -/
def parts (rendered : List RenderedStrategy) : List Part :=
  (sectionsOf rendered).map fun key =>
    { sectionKey := key, items := rendered.filter fun item => item.sectionKey = key }

theorem map_sectionKey_parts (rendered : List RenderedStrategy) :
    (parts rendered).map (·.sectionKey) = sectionsOf rendered := by
  rw [parts, List.map_map]
  exact List.map_id _

theorem isLayout_parts (rendered : List RenderedStrategy) : IsLayout rendered (parts rendered) where
  distinct := by
    rw [map_sectionKey_parts]
    exact Section.nodup_ordered _
  sections key := by
    rw [map_sectionKey_parts, sectionsOf, Section.mem_ordered_iff, List.mem_map]
  ordered := by
    rw [map_sectionKey_parts]
    exact Section.pairwise_ordered _
  items p hp := by
    obtain ⟨key, -, rfl⟩ := List.mem_map.1 hp
    rfl
  complete := by
    rw [parts, List.flatMap_map]
    refine Entries.perm_flatMap_filter RenderedStrategy.sectionKey (Section.nodup_ordered _) ?_
    intro item hitem
    exact Section.mem_ordered_iff.2 (List.mem_map_of_mem hitem)

/-- The block of a section is its part as it is written. -/
theorem block_eq_text (rendered : List RenderedStrategy) (key : String) :
    block rendered key =
      (Part.text ⟨key, rendered.filter fun item => item.sectionKey = key⟩).toList := by
  simp only [block, sectionBody, Part.text, String.toList_append, String.toList_join,
    List.flatMap_map]
  simp

theorem toList_join_parts (rendered : List RenderedStrategy) :
    (String.join ((parts rendered).map Part.text)).toList =
      (sectionsOf rendered).flatMap (block rendered) := by
  rw [String.toList_join, List.flatMap_map, parts, List.flatMap_map]
  exact List.flatMap_congr fun key _ => (block_eq_text rendered key).symm

/-- A report is written part by part, and the blanks at the end are left off. It does not end in a
blank, and without strategies it is empty. -/
theorem assemble_lays_out (rendered : List RenderedStrategy) :
    (∃ parts, IsLayout rendered parts ∧ ∃ blanks : String, blanks.toList.all isBlank = true ∧
      assemble rendered ++ blanks = String.join (parts.map Part.text)) ∧
    (assemble rendered).toList.getLast?.any isBlank = false ∧ assemble [] = "" := by
  refine ⟨⟨parts rendered, isLayout_parts rendered, ?_⟩, ?_, by decide⟩
  · obtain ⟨blanks, blank, whole⟩ :=
      exists_append_trimEndOf isBlank ((sectionsOf rendered).flatMap (block rendered))
    refine ⟨String.ofList blanks, ?_, String.ext ?_⟩
    · rw [String.toList_ofList, List.all_eq_true]
      exact blank
    · rw [toList_join_parts, ← whole, String.toList_append, assemble, String.toList_ofList,
        String.toList_ofList, trimEnd]
  · rw [assemble, String.toList_ofList, trimEnd]
    cases last : (trimEndOf isBlank ((sectionsOf rendered).flatMap (block rendered))).getLast? with
    | none => rfl
    | some c => exact getLast?_trimEndOf isBlank _ c last

/-- A part of which only blanks are written below the heading ends with the heading. -/
example : assemble [⟨"a", "uncategorized", " "⟩, ⟨"b", "taxYear", "x"⟩] =
    "TAX YEAR\n\nx\n\nADDITIONAL STRATEGIES" := by
  decide

end PlanCompiler.Report
