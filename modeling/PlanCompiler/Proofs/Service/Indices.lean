import PlanCompiler.Proofs.Service.Reachable

/-!
# Reading the indices

The indices are rebuilt late, by the first read after a change. No reader can tell: after any run of
commands, refused ones included, an index answers from the strategies that are in the catalog at
that moment.

* `Catalog.labelled`: the strategies under a key, found without an index;
* `Service.ReadsCurrent`: how one of the indices is read, and what the reading leaves behind;
* `Reachable.indices_coherent`: all three indices of a reachable state are read so.
-/

namespace PlanCompiler

/-- The strategies that carry a label, in the order of the catalog; none carries the empty one. -/
def Catalog.labelled (c : Catalog) (label : Strategy → Option String) (key : String) :
    List Strategy :=
  if key = "" then [] else c.strategies.filter fun s => label s = some key

/-- What is filed under a key are the strategies that carry it. -/
theorem Index.get?_table (label : Strategy → String) (strategies : List Strategy) (key : String) :
    (Entries.get? (table label strategies) key).getD [] =
      if key = "" then [] else strategies.filter fun s => label s = key := by
  rw [table, Entries.getD_get?_group, List.filter_filter]
  split
  · rename_i blank
    rw [List.filter_eq_nil_iff]
    intro s _
    simp [blank]
  · rename_i filled
    refine List.filter_congr fun s _ => ?_
    by_cases here : label s = key
    · simp [here, filled]
    · simp [here]

/-- For a key, a label that is not there is as good as an empty one. -/
theorem Index.get?_table_getD (label : Strategy → Option String) (c : Catalog) (key : String) :
    (Entries.get? (table (fun s => (label s).getD "") c.strategies) key).getD [] =
      c.labelled label key := by
  rw [get?_table, Catalog.labelled]
  split
  · rfl
  · refine List.filter_congr fun s _ => ?_
    cases label s with
    | none => simp [Ne.symm ‹key ≠ ""›]
    | some name => simp

namespace Service

/-- Reading an index gives the strategies that carry the key as their label. The indices are rebuilt
when they are stale and then only, and they are fresh afterwards; nothing else changes. -/
structure ReadsCurrent (v : Service) (table : Index → Entries (List Strategy))
    (label : Strategy → Option String) (key : String) : Prop where
  answer : (v.readIndex table key).answer = .ok (v.catalog.labelled label key)
  rebuilt : v.catalog.freshness = .dirty →
    (v.readIndex table key).events = [.rebuiltIndices v.catalog.size]
  untouched : v.catalog.freshness = .fresh →
    (v.readIndex table key).events = [] ∧ (v.readIndex table key).service = v
  service : (v.readIndex table key).service = v.withCatalog
    { v.catalog with index := Index.build v.catalog.strategies, freshness := .fresh }

end Service

theorem Catalog.WellFormed.refreshed_eq {c : Catalog} (h : c.WellFormed) :
    c.refreshed = { c with index := Index.build c.strategies, freshness := .fresh } := by
  obtain ⟨entries, clients, index, freshness⟩ := c
  cases freshness with
  | dirty => rfl
  | fresh =>
    have same : index = Index.build (Entries.values entries) := h.coherent rfl
    exact congrArg (fun index => Catalog.mk entries clients index .fresh) same

/-- Fresh indices are left alone, and stale ones are rebuilt. -/
theorem Catalog.WellFormed.readsCurrent {v : Service} (h : v.catalog.WellFormed)
    {table : Index → Entries (List Strategy)} {label : Strategy → Option String} {key : String}
    (built : (Entries.get? (table (Index.build v.catalog.strategies)) key).getD [] =
      v.catalog.labelled label key) : v.ReadsCurrent table label key where
  answer := by
    rw [Service.readIndex, h.refreshed_eq]
    exact congrArg Except.ok built
  rebuilt dirty := if_pos dirty
  untouched fresh := by
    rw [Service.readIndex, Catalog.refreshed, fresh]
    exact ⟨rfl, rfl⟩
  service := by rw [Service.readIndex, h.refreshed_eq]

namespace Service

/-- In every reachable state, each of the indices is read as if it was made from the strategies for
this one reading, and fresh indices are those that a rebuild would make. -/
theorem Reachable.indices_coherent {v : Service} (h : v.Reachable) (key : String) :
    v.ReadsCurrent (·.byCategory) (fun s => some s.category) key ∧
    v.ReadsCurrent (·.bySection) (·.sectionKey) key ∧
    v.ReadsCurrent (·.bySubsection) (·.subsection) key ∧
    (v.catalog.freshness = .fresh → v.catalog.index = Index.build v.catalog.strategies) := by
  have wellFormed := h.wellFormed
  refine ⟨wellFormed.readsCurrent ?_, wellFormed.readsCurrent ?_, wellFormed.readsCurrent ?_,
    wellFormed.coherent⟩
  · exact Index.get?_table_getD (fun s => some s.category) v.catalog key
  · exact Index.get?_table_getD (·.sectionKey) v.catalog key
  · exact Index.get?_table_getD (·.subsection) v.catalog key

/-- After the run the indices are stale: they still list a strategy that was deleted, and do not
know the new subsection of the other one. No reading shows that. -/
theorem Reachable.indices_coherent_sample :
    (Entries.get? sample.catalog.index.byCategory "tax").map List.length = some 2 ∧
    (sample.readIndex (·.byCategory) "tax").answer.map List.length = .ok 1 ∧
    sample.ReadsCurrent (·.bySubsection) (·.subsection) "t" := by
  have tax := (Reachable.indices_coherent sample_reachable "tax").1
  refine ⟨by decide, ?_, (Reachable.indices_coherent sample_reachable "t").2.2.1⟩
  rw [tax.answer]
  decide

end Service

end PlanCompiler
