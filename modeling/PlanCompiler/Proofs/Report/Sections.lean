import PlanCompiler.Proofs.Browse.Organization
import PlanCompiler.Proofs.Report.Dependence

/-!
# The sections of a report and of the browsing view

A report groups what is rendered from configurations, the browsing view groups the catalog itself.
Both put a strategy under the key of its section and the sections into one order, so that a report
never shows a section that the view does not show, nor two known sections the other way round. A
report on the whole catalog has the very sections of the view, with the same strategies in each.

* `StrategySource.Offers`: the catalog in the forms in which a report takes it;
* `EnablesAll`: configurations of the whole catalog;
* `renderedStrategies_of_enablesAll`: what such configurations render;
* `sections_follow_browsing`: the sections of a report.
-/

namespace PlanCompiler

open Section

/-- The strategies as a catalog in one of the three forms in which they are handed over. -/
inductive StrategySource.Offers (strategies : List Strategy) : StrategySource → Prop
  | listed : Offers strategies (.listed strategies)
  | keyed : Offers strategies (.keyed (strategies.map fun s => (s.id, s)))
  | stored {c : Catalog} (same : c.strategies = strategies) : Offers strategies (.stored c)

namespace StrategySource

variable {strategies : List Strategy} {source : StrategySource}

theorem keys_map_id (strategies : List Strategy) :
    Entries.keys (strategies.map fun s => (s.id, s)) = strategies.map (·.id) := by
  rw [Entries.keys, List.map_map]
  rfl

theorem byId_of_nodup (distinct : (strategies.map (·.id)).Nodup) :
    byId strategies = strategies.map fun s => (s.id, s) := by
  rw [byId, Entries.putAll_of_nodup (by rwa [List.nil_append, keys_map_id]), List.nil_append]

theorem Offers.entries_eq (h : source.Offers strategies)
    (distinct : (strategies.map (·.id)).Nodup) :
    source.entries = strategies.map fun s => (s.id, s) := by
  cases h with
  | listed => exact byId_of_nodup distinct
  | keyed => rfl
  | stored same => rw [entries, same, byId_of_nodup distinct]

/-- A strategy is found under its id, and nothing is found under any other. -/
theorem Offers.find?_eq_some_iff (h : source.Offers strategies)
    (distinct : (strategies.map (·.id)).Nodup) {id : String} {s : Strategy} :
    source.find? id = some s ↔ s ∈ strategies ∧ s.id = id := by
  have keys : (Entries.keys (strategies.map fun s => (s.id, s))).Nodup := by rwa [keys_map_id]
  rw [find?, h.entries_eq distinct, Entries.get?_eq_some_iff_mem keys, List.mem_map]
  constructor
  · rintro ⟨t, ht, same⟩
    obtain ⟨rfl, rfl⟩ := Prod.mk.inj same
    exact ⟨ht, rfl⟩
  · rintro ⟨hs, rfl⟩
    exact ⟨s, hs, rfl⟩

end StrategySource

namespace Report

variable {strategies : List Strategy} {source : StrategySource} {configs : List ClientConfig}

/-! ## What is rendered -/

/-- Every strategy is enabled once, in the order of the catalog. Beside that there may be
configurations that are disabled, and such of strategies that are not there. -/
def EnablesAll (strategies : List Strategy) (configs : List ClientConfig) : Prop :=
  ((configs.filter (·.isEnabled)).map (·.strategyId)).filter (strategies.map (·.id)).contains =
    strategies.map (·.id)

instance : Decidable (EnablesAll strategies configs) :=
  inferInstanceAs (Decidable (_ = _))

/-- The strategies that are rendered, in the order of the configurations. -/
def renderedStrategies (find : String → Option Strategy) (configs : List ClientConfig) :
    List Strategy :=
  (selected find configs).map (·.1)

theorem renderedStrategies_eq (find : String → Option Strategy) (configs : List ClientConfig) :
    renderedStrategies find configs =
      ((configs.filter (·.isEnabled)).map (·.strategyId)).filterMap find := by
  rw [renderedStrategies, selected, List.map_filterMap, List.filterMap_map]
  refine List.filterMap_congr fun config _ => ?_
  rw [Option.map_map, Function.comp_apply]
  exact Option.map_id' ..

/-- Nothing is rendered but strategies of the catalog. -/
theorem renderedStrategies_subset (distinct : (strategies.map (·.id)).Nodup)
    (offered : source.Offers strategies) (configs : List ClientConfig) :
    renderedStrategies source.find? configs ⊆ strategies := by
  intro s hs
  rw [renderedStrategies_eq, List.mem_filterMap] at hs
  obtain ⟨id, -, found⟩ := hs
  exact ((offered.find?_eq_some_iff distinct).1 found).1

/-- Where every strategy is enabled once, each is rendered once. -/
theorem renderedStrategies_of_enablesAll (distinct : (strategies.map (·.id)).Nodup)
    (offered : source.Offers strategies) (all : EnablesAll strategies configs) :
    renderedStrategies source.find? configs = strategies := by
  let ids := (configs.filter (·.isEnabled)).map (·.strategyId)
  have unknown : ∀ id ∈ ids, source.find? id =
      if (strategies.map (·.id)).contains id then source.find? id else none := by
    intro id _
    split
    · rfl
    · rename_i absent
      rw [Option.eq_none_iff_forall_ne_some]
      rintro s found
      obtain ⟨hs, rfl⟩ := (offered.find?_eq_some_iff distinct).1 found
      exact absent (List.contains_iff_mem.2 (List.mem_map_of_mem hs))
  have own : ∀ s ∈ strategies, source.find? s.id = some s := fun s hs =>
    (offered.find?_eq_some_iff distinct).2 ⟨hs, rfl⟩
  calc
    renderedStrategies source.find? configs = ids.filterMap source.find? :=
      renderedStrategies_eq _ _
    _ = (ids.filter (strategies.map (·.id)).contains).filterMap source.find? := by
      rw [List.filterMap_filter]
      exact List.filterMap_congr unknown
    _ = (strategies.map (·.id)).filterMap source.find? := congrArg (List.filterMap _) all
    _ = strategies.filterMap some := by
      rw [List.filterMap_map]
      exact List.filterMap_congr own
    _ = strategies := List.filterMap_some

/-! ## In which sections -/

theorem sectionsOf_renderEnabled (find : String → Option Strategy) (configs : List ClientConfig) :
    sectionsOf (renderEnabled find configs) =
      ordered ((renderedStrategies find configs).map fun s => keyOf s.sectionKey) := by
  rw [sectionsOf, renderEnabled_eq, renderedStrategies, List.map_map, List.map_map]
  rfl

/-- The strategies whose texts stand in a section. -/
theorem map_find?_filter_renderEnabled (find : String → Option Strategy)
    (configs : List ClientConfig) (key : String) :
    ((renderEnabled find configs).filter fun item => item.sectionKey = key).map
        (fun item => find item.strategyId) =
      ((renderedStrategies find configs).filter fun s => keyOf s.sectionKey = key).map
        fun s => find s.id := by
  rw [renderEnabled_eq, renderedStrategies, List.filter_map, List.filter_map, List.map_map,
    List.map_map]
  rfl

/-- A report on the whole catalog, each strategy enabled once and in order, has the sections of the
browsing view in their order, and in each section the strategies of its group. A report on any
configurations has only sections of the view, and of these the known ones in the order of the view:
where one comes before another in the report, so it does there. -/
theorem sections_follow_browsing (distinct : (strategies.map (·.id)).Nodup)
    (offered : source.Offers strategies) (configs : List ClientConfig) :
    (EnablesAll strategies configs →
      sectionsOf (renderEnabled source.find? configs) =
        (Browse.organize none none strategies).map (·.key) ∧
      ∀ g ∈ Browse.organize none none strategies,
        (((renderEnabled source.find? configs).filter fun item => item.sectionKey = g.key).map
          fun item => source.find? item.strategyId).Perm (g.members.map some)) ∧
    sectionsOf (renderEnabled source.find? configs) ⊆
      (Browse.organize none none strategies).map (·.key) ∧
    ∀ a b, isUnknown a = false → isUnknown b = false →
      [a, b].Sublist (sectionsOf (renderEnabled source.find? configs)) →
      [a, b].Sublist ((Browse.organize none none strategies).map (·.key)) := by
  have groups : (Browse.organize none none strategies).map (·.key) =
      ordered (strategies.map fun s => keyOf s.sectionKey) := by
    rw [Browse.map_key_organize, Browse.select_none]
  have sub : (renderedStrategies source.find? configs).map (fun s => keyOf s.sectionKey) ⊆
      strategies.map fun s => keyOf s.sectionKey :=
    List.map_subset _ (renderedStrategies_subset distinct offered configs)
  rw [groups, sectionsOf_renderEnabled]
  refine ⟨fun all => ?_, fun key hkey => ?_, fun a b ha hb => pair_sublist_ordered sub ha hb⟩
  · have rendered := renderedStrategies_of_enablesAll distinct offered all
    refine ⟨by rw [rendered], fun g hg => ?_⟩
    have members := Browse.perm_members_of_mem_organize hg
    have own : (strategies.filter fun s => keyOf s.sectionKey = g.key).map
          (fun s => source.find? s.id) =
        (strategies.filter fun s => keyOf s.sectionKey = g.key).map some :=
      List.map_congr_left fun s hs =>
        (offered.find?_eq_some_iff distinct).2 ⟨(List.mem_filter.1 hs).1, rfl⟩
    rw [Browse.select_none] at members
    rw [map_find?_filter_renderEnabled, rendered, own]
    exact (members.map some).symm
  · exact mem_ordered_iff.2 (sub (mem_ordered_iff.1 hkey))

/-- Strategies of an unknown section, of one that is called like the last one, of a section with a
fixed place, and of none. -/
def sampleShelf : List Strategy :=
  [{ id := "a", title := "A", sectionKey := some "planning", content := "" },
    { id := "b", title := "B", sectionKey := some "uncategorized", content := "" },
    { id := "c", title := "C", sectionKey := some "leavingALegacy", content := "" },
    { id := "d", title := "", category := "tax", content := "" }]

/-- The view of these strategies has the sections of a report on all of them. The strategy of the
fixed section is enabled last in another report, but its section comes first there as well. -/
theorem sections_follow_browsing_sample :
    EnablesAll sampleShelf [⟨"a", true, []⟩, ⟨"x", true, []⟩, ⟨"b", true, []⟩, ⟨"c", true, []⟩,
      ⟨"a", false, []⟩, ⟨"d", true, []⟩] ∧
    (Browse.organize none none sampleShelf).map (·.key) =
      ["leavingALegacy", "planning", "uncategorized"] ∧
    sectionsOf (renderEnabled (StrategySource.listed sampleShelf).find?
      [⟨"d", true, []⟩, ⟨"c", true, []⟩]) = ["leavingALegacy", "uncategorized"] ∧
    ["leavingALegacy", "uncategorized"].Sublist
      ((Browse.organize none none sampleShelf).map (·.key)) := by
  have distinct : (sampleShelf.map (·.id)).Nodup := by decide
  have all : EnablesAll sampleShelf [⟨"a", true, []⟩, ⟨"x", true, []⟩, ⟨"b", true, []⟩,
      ⟨"c", true, []⟩, ⟨"a", false, []⟩, ⟨"d", true, []⟩] := by decide
  have sections := ((sections_follow_browsing distinct .listed _).1 all).1
  have some : sectionsOf (renderEnabled (StrategySource.listed sampleShelf).find?
      [⟨"d", true, []⟩, ⟨"c", true, []⟩]) = ["leavingALegacy", "uncategorized"] := by decide
  have before := (sections_follow_browsing distinct .listed [⟨"d", true, []⟩, ⟨"c", true, []⟩]).2.2
  refine ⟨all, sections.symm.trans (by decide), some, before _ _ (by decide) (by decide) ?_⟩
  rw [some]

end Report

end PlanCompiler
