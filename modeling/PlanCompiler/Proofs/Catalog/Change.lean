import PlanCompiler.Catalog.Basic
import PlanCompiler.Proofs.Strategy.Validity

/-!
# What a change does to the catalog

`Change` lists what an operation can do to the catalog, with what it has to know before it does so.
`WellFormed` is what every one of these changes keeps (`Change.wellFormed`, one case for each):
strategies stand under their own ids, which are not empty, and are valid, fresh indices are those of
a rebuild, and no client has stored a configuration of a strategy that is not there.
-/

namespace PlanCompiler.Catalog

/-- What holds of every catalog that operations lead to. -/
structure WellFormed (c : Catalog) : Prop where
  /-- A strategy stands under its own id. -/
  keyed : ∀ entry ∈ c.entries, entry.2.id = entry.1
  distinct : c.ids.Nodup
  /-- No id is empty. -/
  filled : ∀ id ∈ c.ids, id ≠ ""
  valid : ∀ entry ∈ c.entries, entry.2.toStrategyBody.IsValid
  /-- Fresh indices describe the strategies. -/
  coherent : c.freshness = .fresh → c.index = Index.build c.strategies
  /-- The strategy of a stored configuration is there. -/
  referenced : ∀ entry ∈ c.clients, ∀ config ∈ entry.2, c.contains config.strategyId = true

/-- What an operation can do to the catalog. -/
inductive Change (c : Catalog) : Catalog → Prop
  | keep : Change c c
  | refresh : Change c c.refreshed
  | extend (news : List Strategy) (filled : ∀ s ∈ news, s.id ≠ "")
    (valid : ∀ s ∈ news, s.toStrategyBody.IsValid) : Change c (c.insertAll news)
  /-- Another text for a strategy that is there; id and origin stay. -/
  | revise {old s : Strategy} (found : c.get? s.id = some old) (origin : s.isCustom = old.isCustom)
    (valid : s.toStrategyBody.IsValid) : Change c (c.insert s)
  | remove {id : String} {s : Strategy} (found : c.get? id = some s) (custom : s.isCustom = true) :
    Change c (c.remove id)
  | clear : Change c c.cleared
  | store (client : String) (configs : List ClientConfig) : Change c (c.storeConfigs client configs)

variable {c : Catalog}

/-- One strategy more. -/
theorem Change.insert {s : Strategy} (filled : s.id ≠ "") (valid : s.toStrategyBody.IsValid) :
    Change c (c.insert s) := by
  refine .extend [s] (fun t ht => ?_) fun t ht => ?_
  · rw [List.mem_singleton.1 ht]
    exact filled
  · rw [List.mem_singleton.1 ht]
    exact valid

theorem foldl_insert_stale (c : Catalog) (news : List Strategy) :
    news.foldl insert c.stale = (news.foldl place c).stale := by
  induction news generalizing c with
  | nil => rfl
  | cons s rest ih => exact ih (c.place s)

/-- Marking the indices once at the end is the same as marking them with every strategy. -/
theorem insertAll_cons (c : Catalog) (s : Strategy) (rest : List Strategy) :
    c.insertAll (s :: rest) = (rest.foldl place (c.place s)).stale :=
  foldl_insert_stale (c.place s) rest

@[simp] theorem clients_refreshed (c : Catalog) : c.refreshed.clients = c.clients := by
  rw [refreshed]
  split <;> rfl

@[simp] theorem entries_refreshed (c : Catalog) : c.refreshed.entries = c.entries := by
  rw [refreshed]
  split <;> rfl

@[simp] theorem clients_insertAll (c : Catalog) (news : List Strategy) :
    (c.insertAll news).clients = c.clients := by
  induction news generalizing c with
  | nil => rfl
  | cons s rest ih => exact ih (c.insert s)

/-- A strategy whose id is not taken goes to the end of the catalog. -/
theorem entries_place {s : Strategy} (free : s.id ∉ c.ids) :
    (c.place s).entries = c.entries ++ [(s.id, s)] := by
  refine Entries.put_of_not_contains s ?_
  rw [← Bool.not_eq_true, Entries.contains_iff_mem_keys]
  exact free

theorem ids_place {s : Strategy} (free : s.id ∉ c.ids) : (c.place s).ids = c.ids ++ [s.id] := by
  rw [ids, entries_place free, Entries.keys, List.map_append]
  rfl

theorem size_place {s : Strategy} (free : s.id ∉ c.ids) : (c.place s).size = c.size + 1 := by
  rw [size, entries_place free, List.length_append]
  rfl

/-- Strategies whose ids are not taken, no two of them with the same one, go to the end in their
order. -/
theorem entries_insertAll {news : List Strategy} (free : (c.ids ++ news.map (·.id)).Nodup) :
    (c.insertAll news).entries = c.entries ++ news.map fun s => (s.id, s) := by
  have stored (c : Catalog) (news : List Strategy) : (c.insertAll news).entries =
      Entries.putAll c.entries (news.map fun s => (s.id, s)) := by
    induction news generalizing c with
    | nil => rfl
    | cons s rest ih => exact ih (c.insert s)
  rw [stored, Entries.putAll_of_nodup]
  rw [Entries.keys, List.map_append, List.map_map]
  exact free

/-! ## Well-formed catalogs -/

theorem WellFormed.empty : WellFormed {} where
  keyed _ h := by cases h
  distinct := List.nodup_nil
  filled _ h := by cases h
  valid _ h := by cases h
  coherent h := by cases h
  referenced _ h := by cases h

theorem WellFormed.mem_of_get? {id : String} {s : Strategy} (h : c.get? id = some s) :
    (id, s) ∈ c.entries :=
  Entries.mem_of_get? h

theorem WellFormed.isValid_of_get? (h : c.WellFormed) {id : String} {s : Strategy}
    (found : c.get? id = some s) : s.toStrategyBody.IsValid :=
  h.valid _ (mem_of_get? found)

theorem mem_ids_of_get? {id : String} {s : Strategy} (found : c.get? id = some s) : id ∈ c.ids :=
  Entries.mem_keys_of_mem (WellFormed.mem_of_get? found)

/-! ## Each change keeps it -/

theorem contains_insert (c : Catalog) (s : Strategy) (id : String) :
    (c.insert s).contains id = (decide (s.id = id) || c.contains id) :=
  Entries.contains_put c.entries s.id id s

theorem WellFormed.insert (h : c.WellFormed) {s : Strategy} (filled : s.id ≠ "")
    (valid : s.toStrategyBody.IsValid) : (c.insert s).WellFormed where
  keyed entry mem := by
    rcases Entries.mem_put mem with old | rfl
    · exact h.keyed entry old
    · rfl
  distinct := Entries.nodup_keys_put h.distinct s.id s
  filled id mem := by
    obtain ⟨entry, hentry, rfl⟩ := List.mem_map.1 mem
    rcases Entries.mem_put hentry with old | rfl
    · exact h.filled _ (Entries.mem_keys_of_mem old)
    · exact filled
  valid entry mem := by
    rcases Entries.mem_put mem with old | rfl
    · exact h.valid entry old
    · exact valid
  coherent fresh := by cases fresh
  referenced entry mem config hconfig := by
    rw [contains_insert, h.referenced entry mem config hconfig, Bool.or_true]

/-- Strategies are added one after another. -/
theorem WellFormed.insertAll (h : c.WellFormed) {news : List Strategy}
    (filled : ∀ s ∈ news, s.id ≠ "") (valid : ∀ s ∈ news, s.toStrategyBody.IsValid) :
    (c.insertAll news).WellFormed := by
  induction news generalizing c with
  | nil => exact h
  | cons s rest ih =>
    have first := h.insert (filled s List.mem_cons_self) (valid s List.mem_cons_self)
    exact ih first (fun t ht => filled t (List.mem_cons_of_mem _ ht))
      fun t ht => valid t (List.mem_cons_of_mem _ ht)

theorem contains_remove (c : Catalog) (id other : String) :
    (c.remove id).contains other = (decide (id ≠ other) && c.contains other) := by
  rw [contains, Entries.contains, remove, Entries.get?_erase]
  by_cases same : id = other <;> simp [same, contains, Entries.contains]

/-- What is dropped from the catalog is dropped from every client's list as well, so that what
remains there still refers to strategies that remain. -/
theorem WellFormed.remove (h : c.WellFormed) (id : String) : (c.remove id).WellFormed where
  keyed entry mem := h.keyed entry (Entries.mem_erase_iff.1 mem).1
  distinct := Entries.nodup_keys_erase h.distinct id
  filled other mem := by
    obtain ⟨entry, hentry, rfl⟩ := List.mem_map.1 mem
    exact h.filled _ (Entries.mem_keys_of_mem (Entries.mem_erase_iff.1 hentry).1)
  valid entry mem := h.valid entry (Entries.mem_erase_iff.1 mem).1
  coherent fresh := by cases fresh
  referenced entry mem config hconfig := by
    obtain ⟨old, hold, rfl⟩ := List.mem_map.1 mem
    obtain ⟨stored, other⟩ := List.mem_filter.1 hconfig
    have there := h.referenced old hold config stored
    have ne : id ≠ config.strategyId := fun e => of_decide_eq_true other e.symm
    rw [contains_remove, there, Bool.and_true]
    exact decide_eq_true ne

theorem WellFormed.refreshed (h : c.WellFormed) : c.refreshed.WellFormed := by
  rw [Catalog.refreshed]
  split
  · exact h
  · exact
      { keyed := h.keyed
        distinct := h.distinct
        filled := h.filled
        valid := h.valid
        coherent := fun _ => rfl
        referenced := h.referenced }

theorem WellFormed.cleared : c.cleared.WellFormed where
  keyed _ mem := by cases mem
  distinct := List.nodup_nil
  filled _ mem := by cases mem
  valid _ mem := by cases mem
  coherent fresh := by cases fresh
  referenced _ mem := by cases mem

/-- Of what a client sends only the configurations of strategies that are there are stored. -/
theorem WellFormed.storeConfigs (h : c.WellFormed) (client : String) (configs : List ClientConfig) :
    (c.storeConfigs client configs).WellFormed where
  keyed := h.keyed
  distinct := h.distinct
  filled := h.filled
  valid := h.valid
  coherent := h.coherent
  referenced entry mem config hconfig := by
    rcases Entries.mem_put mem with old | rfl
    · exact h.referenced entry old config hconfig
    · exact (List.mem_filter.1 hconfig).2

theorem Change.wellFormed {c' : Catalog} (change : Change c c') (h : c.WellFormed) :
    c'.WellFormed := by
  cases change with
  | keep => exact h
  | refresh => exact h.refreshed
  | extend _ filled valid => exact h.insertAll filled valid
  | revise found _ valid => exact h.insert (h.filled _ (mem_ids_of_get? found)) valid
  | remove _ _ => exact h.remove _
  | clear => exact WellFormed.cleared
  | store client configs => exact h.storeConfigs client configs

end PlanCompiler.Catalog
