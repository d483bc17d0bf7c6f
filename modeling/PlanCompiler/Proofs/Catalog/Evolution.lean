import PlanCompiler.Proofs.Catalog.Change

/-!
# How the catalog evolves

The strategies of the catalog are an ordered table. `Evolves` lists all that may happen to it in one
step: strategies come to its end under new ids, one that a user wrote goes, one gets another text
where it stands, or all of them go. None of this turns a built-in strategy into one that a user
wrote, or the other way round (`Evolves.isCustom?_eq`).
-/

namespace PlanCompiler

/-- What an operation is to do to the strategies. -/
inductive Effect
  | keeps
  | adds
  | removes (id : String)
  | replaces (id : String)
  | clears
  deriving DecidableEq, Repr

/-- The ways in which an operation with a given effect may change the strategies: not at all, or as
it is to do. -/
inductive Evolves : Effect → Entries Strategy → Entries Strategy → Prop
  | unchanged {effect : Effect} {t : Entries Strategy} : Evolves effect t t
  /-- Strategies under new ids, no two of them the same, come after all that were there. -/
  | added {t : Entries Strategy} (news : List Strategy)
    (unused : (Entries.keys t ++ news.map (·.id)).Nodup) :
    Evolves .adds t (t ++ news.map fun s => (s.id, s))
  /-- A strategy goes, if a user wrote it; the others keep their order. -/
  | removed {front back : Entries Strategy} {id : String} {s : Strategy}
    (custom : s.isCustom = true) :
    Evolves (.removes id) (front ++ (id, s) :: back) (front ++ back)
  /-- A strategy is replaced where it stands, under its id and with its origin. -/
  | replaced {front back : Entries Strategy} {id : String} {old new : Strategy} (same : new.id = id)
    (origin : new.isCustom = old.isCustom) :
    Evolves (.replaces id) (front ++ (id, old) :: back) (front ++ (id, new) :: back)
  | cleared {t : Entries Strategy} : Evolves .clears t []

/-- What was there is there afterwards, and is of the same origin, unless it is removed or
everything goes. -/
theorem Evolves.exists_mem {effect : Effect} {t t' : Entries Strategy} (h : Evolves effect t t')
    (kept : effect ≠ .clears) {id : String} {s : Strategy} (there : (id, s) ∈ t)
    (spared : s.isCustom = true → effect ≠ .removes id) :
    ∃ s', (id, s') ∈ t' ∧ s'.isCustom = s.isCustom := by
  cases h with
  | unchanged => exact ⟨s, there, rfl⟩
  | added news _ => exact ⟨s, List.mem_append_left _ there, rfl⟩
  | removed custom =>
    rcases List.mem_append.1 there with before | after
    · exact ⟨s, List.mem_append_left _ before, rfl⟩
    · rcases List.mem_cons.1 after with this | after
      · obtain ⟨rfl, rfl⟩ := Prod.mk.inj this
        exact absurd rfl (spared custom)
      · exact ⟨s, List.mem_append_right _ after, rfl⟩
  | @replaced front back _ old new same origin =>
    rcases List.mem_append.1 there with before | after
    · exact ⟨s, List.mem_append_left _ before, rfl⟩
    · rcases List.mem_cons.1 after with this | after
      · obtain ⟨rfl, rfl⟩ := Prod.mk.inj this
        exact ⟨new, List.mem_append_right _ List.mem_cons_self, origin⟩
      · exact ⟨s, List.mem_append_right _ (List.mem_cons_of_mem _ after), rfl⟩
  | cleared => exact absurd rfl kept

namespace Catalog

variable {c c' : Catalog} {id : String}

/-- Whether a user wrote the strategy with the given id, if there is one. -/
def isCustom? (c : Catalog) (id : String) : Option Bool :=
  (c.get? id).map (·.isCustom)

theorem isCustom?_remove (c : Catalog) (id : String) : (c.remove id).isCustom? id = none := by
  rw [isCustom?, get?, remove, Entries.get?_erase, if_pos rfl, Option.map_none]

theorem isCustom?_eq_some_iff (distinct : c.ids.Nodup) {custom : Bool} :
    c.isCustom? id = some custom ↔ ∃ s, (id, s) ∈ c.entries ∧ s.isCustom = custom := by
  simp only [isCustom?, Option.map_eq_some_iff, get?, Entries.get?_eq_some_iff_mem distinct]

end Catalog

theorem Evolves.isCustom?_eq {effect : Effect} {c c' : Catalog}
    (h : Evolves effect c.entries c'.entries) (distinct : c.ids.Nodup) (distinct' : c'.ids.Nodup)
    (kept : effect ≠ .clears) {id : String} {custom : Bool} (there : c.isCustom? id = some custom)
    (spared : custom = true → effect ≠ .removes id) : c'.isCustom? id = some custom := by
  obtain ⟨s, mem, rfl⟩ := (Catalog.isCustom?_eq_some_iff distinct).1 there
  exact (Catalog.isCustom?_eq_some_iff distinct').2 (h.exists_mem kept mem spared)

/-! ## Changes of the catalog -/

namespace Catalog

variable {c : Catalog} {id : String} {s : Strategy}

theorem evolves_insertAll {news : List Strategy} (free : (c.ids ++ news.map (·.id)).Nodup) :
    Evolves .adds c.entries (c.insertAll news).entries := by
  rw [entries_insertAll free]
  exact .added news free

theorem evolves_insert (distinct : c.ids.Nodup) (free : s.id ∉ c.ids) :
    Evolves .adds c.entries (c.insert s).entries := by
  have unused : (c.ids ++ [s].map (·.id)).Nodup := by
    rw [List.map_singleton, ← List.concat_eq_append]
    exact distinct.concat free
  exact evolves_insertAll unused

/-- Another text for a strategy that is there. -/
theorem evolves_revise {old : Strategy} (found : c.get? id = some old) (same : s.id = id)
    (origin : s.isCustom = old.isCustom) :
    Evolves (.replaces id) c.entries (c.insert s).entries := by
  obtain ⟨front, back, before, after⟩ := Entries.exists_put_eq found s
  subst same
  show Evolves _ _ (Entries.put c.entries s.id s)
  rw [after, before]
  exact .replaced rfl origin

theorem evolves_remove (distinct : c.ids.Nodup) (found : c.get? id = some s)
    (custom : s.isCustom = true) : Evolves (.removes id) c.entries (c.remove id).entries := by
  obtain ⟨front, back, before, after⟩ := Entries.exists_erase_eq distinct found
  show Evolves _ _ (Entries.erase c.entries id)
  rw [after, before]
  exact .removed custom

end Catalog

end PlanCompiler
