import PlanCompiler.Proofs.Browse.Organization
import PlanCompiler.Proofs.Service.Indices

/-!
# Browsing one section

A client that wants to see one section of the catalog can ask for it in three ways: take its group
out of the whole view, have the view made of this section alone, or read the index of sections. What
is searched for is the same in the first two, and the third one finds the strategies of the second
in the order of the catalog, unless it is asked for the section of those that have none: only the
view puts them under its key.

* `select_section`, `organize_section`: a filter by section, on strategies and on groups;
* `labelled_eq_select`: the index of sections;
* `Reachable.section_views_agree`: the three ways.
-/

namespace PlanCompiler

namespace Section

/-- A key other than that of the last section is only had by strategies that name it. -/
theorem keyOf_eq_iff {section? : Option String} {key : String} (filled : key ≠ "")
    (sectioned : key ≠ uncategorized) : keyOf section? = key ↔ section? = some key := by
  cases section? with
  | none => simp [keyOf, Ne.symm sectioned]
  | some name =>
    by_cases blank : name = ""
    · simp [keyOf, blank, Ne.symm sectioned, Ne.symm filled]
    · simp [keyOf, blank]

/-- No key comes twice, so that of the keys equal to a given one there is one at most. -/
theorem filter_eq_ordered (keys : List String) (key : String) :
    (ordered keys).filter (· = key) = if key ∈ keys then [key] else [] := by
  rw [List.filter_eq, (nodup_ordered keys).count]
  simp only [mem_ordered_iff]
  split <;> rfl

theorem ordered_filter_eq (keys : List String) (key : String) :
    ordered (keys.filter (· = key)) = (ordered keys).filter (· = key) := by
  have only : (ordered (keys.filter (· = key))).filter (· = key) =
      ordered (keys.filter (· = key)) := by
    refine List.filter_eq_self.2 fun k hk => ?_
    exact (List.mem_filter.1 (mem_ordered_iff.1 hk)).2
  rw [← only, filter_eq_ordered, filter_eq_ordered]
  simp

end Section

namespace Browse

variable {key : String} (search : Option String) (strategies : List Strategy)

/-- Of what is searched for the strategies of the section are left. -/
theorem select_section (filled : key ≠ "") (proper : key ≠ allSections) :
    select search (some key) strategies =
      (select search none strategies).filter fun s => Section.keyOf s.sectionKey = key := by
  have here (s : Strategy) : matchesSection s (some key) =
      decide (Section.keyOf s.sectionKey = key) := by
    simp [matchesSection, filled, proper]
  rw [select, select, List.filter_filter]
  refine List.filter_congr fun s _ => ?_
  rw [here, matchesSection, Bool.and_true, Bool.and_comm]

/-- Of the groups the one of the section is left. -/
theorem organize_section (filled : key ≠ "") (proper : key ≠ allSections) :
    organize search (some key) strategies =
      (organize search none strategies).filter fun g => g.key = key := by
  have keys : ((select search none strategies).filter fun s =>
        Section.keyOf s.sectionKey = key).map (fun s => Section.keyOf s.sectionKey) =
      ((select search none strategies).map fun s =>
        Section.keyOf s.sectionKey).filter (· = key) := by
    rw [List.filter_map]
    rfl
  rw [organize, organize, select_section search strategies filled proper, keys,
    Section.ordered_filter_eq, List.filter_map]
  refine List.map_congr_left fun k hk => ?_
  obtain rfl : k = key := of_decide_eq_true (List.mem_filter.1 hk).2
  rw [List.filter_filter]
  simp only [Bool.and_self]

/-- There is one group at most, and it has all that is selected. -/
theorem perm_members_organize_section (filled : key ≠ "") (proper : key ≠ allSections) :
    ((organize search (some key) strategies).flatMap (·.members)).Perm
      (select search (some key) strategies) := by
  have sections := select_section search strategies filled proper
  have keys : (organize search (some key) strategies).map (·.key) =
      if key ∈ (select search none strategies).map fun s => Section.keyOf s.sectionKey
        then [key] else [] := by
    rw [organize_section search strategies filled proper, ← Section.filter_eq_ordered,
      ← map_key_organize, List.filter_map]
    rfl
  split at keys
  · obtain ⟨g, single, own⟩ := List.map_eq_singleton_iff.1 keys
    have mem : g ∈ organize search (some key) strategies := single ▸ List.mem_singleton_self g
    have members := perm_members_of_mem_organize mem
    rw [own, sections, List.filter_filter] at members
    simp only [Bool.and_self] at members
    rw [single, List.flatMap_singleton, sections]
    exact members
  · rename_i absent
    have none : select search (some key) strategies = [] := by
      rw [sections, List.filter_eq_nil_iff]
      exact fun s hs here => absent (List.mem_map.2 ⟨s, hs, of_decide_eq_true here⟩)
    rw [List.map_eq_nil_iff.1 keys, none]
    exact List.Perm.nil

/-- A section that is not the last one is the label of its strategies. -/
theorem labelled_eq_select (c : Catalog) (filled : key ≠ "") (proper : key ≠ allSections)
    (sectioned : key ≠ Section.uncategorized) :
    c.labelled (·.sectionKey) key = select none (some key) c.strategies := by
  rw [Catalog.labelled, if_neg filled, select_section none c.strategies filled proper, select_none]
  simp only [Section.keyOf_eq_iff filled sectioned]

end Browse

namespace Service

/-- In every reachable state, the view of one section is its group out of the whole view, whatever
is searched for, and has the strategies that the two filters let through. The index of sections
finds the same as the filter, in the same order. -/
theorem Reachable.section_views_agree {v : Service} (h : v.Reachable) (search : Option String)
    {key : String} (filled : key ≠ "") (proper : key ≠ Browse.allSections) :
    Browse.organize search (some key) v.catalog.strategies =
      (Browse.organize search none v.catalog.strategies).filter (fun g => g.key = key) ∧
    ((Browse.organize search (some key) v.catalog.strategies).flatMap (·.members)).Perm
      (Browse.select search (some key) v.catalog.strategies) ∧
    (key ≠ Section.uncategorized → (v.readIndex (·.bySection) key).answer =
      .ok (Browse.select none (some key) v.catalog.strategies)) := by
  refine ⟨Browse.organize_section search _ filled proper,
    Browse.perm_members_organize_section search _ filled proper, fun sectioned => ?_⟩
  have current : v.ReadsCurrent (·.bySection) (·.sectionKey) key :=
    h.wellFormed.readsCurrent (Index.get?_table_getD (·.sectionKey) v.catalog key)
  rw [current.answer, Browse.labelled_eq_select v.catalog filled proper sectioned]

/-- Strategies of one section, added after the indices were read. -/
def sampleAdditions : List Command :=
  [.bySection "planning",
    .add (.record [("id", .text "p"), ("title", .text "Plan"), ("content", .text ""),
      ("section", .text "planning")]),
    .add (.record [("id", .text "q"), ("title", .text "Again"), ("content", .text "Plan."),
      ("section", .text "planning"), ("subsection", .text "t")])]

/-- Both strategies of the section are found, by the filter and by the index that was read before
there were any. The strategy that has no section is found by the filter for the last one. -/
theorem Reachable.section_views_agree_sample :
    "planning" ≠ "" ∧ "planning" ≠ Browse.allSections ∧
    ((sample.after sampleAdditions).readIndex (·.bySection) "planning").answer.map
      (·.map (·.id)) = .ok ["p", "q"] ∧
    ((Browse.organize (some "AGAIN") (some "planning")
      (sample.after sampleAdditions).catalog.strategies).flatMap (·.members)).map (·.id) = ["q"] ∧
    ((Browse.organize none (some Section.uncategorized)
      (sample.after sampleAdditions).catalog.strategies).flatMap (·.members)).map (·.id) =
      ["a"] := by
  have reachable : (sample.after sampleAdditions).Reachable := sample_reachable.after _
  have read := (Reachable.section_views_agree reachable none
    (show "planning" ≠ "" by decide) (by decide)).2.2 (by decide)
  have searched := (Reachable.section_views_agree reachable (some "AGAIN")
    (show "planning" ≠ "" by decide) (by decide)).2.1
  have last := (Reachable.section_views_agree reachable none
    (show Section.uncategorized ≠ "" by decide) (by decide)).2.1
  refine ⟨by decide, by decide, ?_, ?_, ?_⟩
  · rw [read]
    decide
  · have one : (Browse.select (some "AGAIN") (some "planning")
      (sample.after sampleAdditions).catalog.strategies).map (·.id) = ["q"] := by decide
    exact List.perm_singleton.1 (one ▸ searched.map (·.id))
  · have one : (Browse.select none (some Section.uncategorized)
      (sample.after sampleAdditions).catalog.strategies).map (·.id) = ["a"] := by decide
    exact List.perm_singleton.1 (one ▸ last.map (·.id))

end Service

end PlanCompiler
