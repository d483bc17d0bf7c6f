import PlanCompiler.Proofs.Service.Reachable

/-!
# Exported strategies imported again

What is exported of the strategies that users wrote is imported without a loss. The copies come
after all that was in the catalog before, each under a generated id that was free when its turn
came.

* `Draft.read_write_strategy`: a strategy is read back as a draft that insists on its id;
* `Service.ImportedInto.nodup_ids`: no id that an import generates is taken;
* `Reachable.reimport_appends_copies`: the catalog after export and import.
-/

namespace PlanCompiler

open Schema

/-- A written strategy is read as a draft that insists on its id. -/
theorem Draft.read_write_strategy {s : Strategy} (h : s.toStrategyBody.IsValid) :
    Draft.read s.write = .valid s.toDraft := by
  refine Draft.read_eq_valid_iff.2
    ⟨_, rfl, ?_, StrategyBody.readFrom_spelled Key.isSpelling_wire h _⟩
  exact optional_spelled Key.isSpelling_wire (s.known _) (by decide) rfl rfl

namespace Service

/-- Of everything that is exported a draft is read. -/
theorem readDrafts_exported {v : Service} (h : v.catalog.WellFormed) :
    Command.readDrafts v.exported = .ok (v.catalog.customStrategies.map Strategy.toDraft) := by
  refine Command.readEach_map fun s hs => Draft.read_write_strategy ?_
  obtain ⟨entry, hentry, rfl⟩ := List.mem_map.1 (List.mem_filter.1 hs).1
  exact h.valid entry hentry

/-- While there is room for all of the drafts, no id that is generated for one of them is taken. -/
theorem ImportedInto.nodup_ids {c : Catalog} {drafts : List Draft} {imported : List Strategy}
    (h : ImportedInto c drafts imported) (distinct : c.ids.Nodup)
    (room : c.size + drafts.length ≤ Catalog.serialBound) :
    (c.ids ++ imported.map (·.id)).Nodup :=
  h.nodup_of_supplies distinct (suppliesIds_of_room room)

/-- An import changes nothing of a strategy that a user wrote but its id. -/
theorem toImported_toDraft {s : Strategy} (custom : s.isCustom = true) (id : String) :
    s.toDraft.toImported id = { s with id } := by
  obtain ⟨body, own⟩ := s
  obtain ⟨title, description, category, sectionKey, subsection, content, inputFields, isCustom⟩ :=
    body
  subst custom
  rfl

theorem forall₂_copies {strategies copies : List Strategy}
    (custom : ∀ s ∈ strategies, s.isCustom = true)
    (h : List.Forall₂ (fun d s => ∃ id, s = d.toImported id) (strategies.map Strategy.toDraft)
      copies) : List.Forall₂ (fun s copy => copy = { s with id := copy.id }) strategies copies := by
  rw [List.forall₂_map_left_iff] at h
  refine ((List.forall₂_and_left _ _).2 ⟨custom, h⟩).imp ?_
  rintro s copy ⟨written, id, rfl⟩
  rw [toImported_toDraft written]

/-- In every reachable state with room for the copies, what is exported is imported as copies of the
strategies that users wrote, equal to them but for their ids, which are new. The catalog is what it
was with the copies at its end, and what clients have stored stays. -/
theorem Reachable.reimport_appends_copies {v : Service} (h : v.Reachable)
    (room : v.catalog.size + v.catalog.customStrategies.length ≤ Catalog.serialBound) :
    ∃ copies, (Command.run v .reimport).answer = .ok (.strategies copies) ∧
      List.Forall₂ (fun s copy => copy = { s with id := copy.id }) v.catalog.customStrategies
        copies ∧
      (copies.map (·.id)).Nodup ∧ (∀ copy ∈ copies, copy.id ∉ v.catalog.ids) ∧
      (Command.run v .reimport).service.catalog.entries =
        v.catalog.entries ++ copies.map (fun copy => (copy.id, copy)) ∧
      (Command.run v .reimport).service.catalog.clients = v.catalog.clients := by
  have drafts := readDrafts_exported h.wellFormed
  obtain ⟨next, copies, heq, into⟩ := v.importDrafts_into (Command.isValid_of_readDrafts drafts)
  have free := into.nodup_ids h.wellFormed.distinct (by rwa [List.length_map])
  have apart := List.nodup_append.1 free
  rw [Command.run, drafts, checked_ok, heq]
  have same := forall₂_copies (fun s hs => (List.mem_filter.1 hs).2) into.forall₂
  refine ⟨copies, rfl, same, apart.2.1, fun copy hcopy taken => ?_,
    Catalog.entries_insertAll free, Catalog.clients_insertAll _ _⟩
  exact apart.2.2 copy.id taken copy.id (List.mem_map_of_mem hcopy) rfl

/-- The serial number goes back to one that an imported strategy has in its id. -/
def sampleRepeated : Service :=
  (sample.after sampleChanges).after [.setSerial 2]

/-- The first copy does not get the id that is taken, though the serial number asks for it. -/
theorem Reachable.reimport_appends_copies_sample :
    sampleRepeated.serial = 2 ∧
    sampleRepeated.catalog.ids = ["a", "custom-t-00000001", "imported-t-00000002"] ∧
    ∃ copies, (Command.run sampleRepeated .reimport).answer = .ok (.strategies copies) ∧
      List.Forall₂ (fun s copy => copy = { s with id := copy.id })
        sampleRepeated.catalog.customStrategies copies ∧
      (Command.run sampleRepeated .reimport).service.catalog.ids =
        ["a", "custom-t-00000001", "imported-t-00000002", "imported-t-00000003",
          "imported-t-00000004"] := by
  obtain ⟨copies, answer, same, -⟩ := Reachable.reimport_appends_copies (v := sampleRepeated)
    ((sample_reachable.after sampleChanges).after [.setSerial 2]) (by decide)
  exact ⟨rfl, by decide, copies, answer, same, by decide⟩

end Service

end PlanCompiler
