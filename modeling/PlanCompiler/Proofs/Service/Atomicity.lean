import PlanCompiler.Proofs.Service.Reachable

/-!
# Failed writes

A write that is refused, or that says that there is no such strategy, leaves catalog, stored
configurations and indices as they were; only the serial number of the next generated id may have
moved. This holds although an import stores its strategies one by one and reads each of them again,
because that second reading cannot fail.

* `Outcome.failed`: an outcome that reports a failure;
* `Reachable.failed_write_changes_nothing`: what such an outcome leaves behind.
-/

namespace PlanCompiler

open Schema

/-- The command was refused, or something was not there. -/
def Outcome.failed (o : Outcome Answer) : Bool :=
  match o.answer with
  | .ok a => a.isMissing
  | .error _ => true

/-- Of all that can be made and nothing, a failure is the latter. -/
theorem Outcome.Whole.service_of_failed {v : Service} {makes : Answer → Catalog → Prop}
    {o : Outcome Answer} (h : Outcome.Whole v (·.isMissing = true) makes o) (failed : o.failed) :
    o.service = { v with serial := o.service.serial } := by
  cases h with
  | made answered there _ _ =>
    rw [Outcome.failed, answered] at failed
    exact absurd failed there
  | kept _ _ service => rw [service]

namespace Service

/-- What passed its own check passes the check of the strategy that is made from it: a draft under
any id, added or imported, and a revision of any strategy that is there. So a batch of accepted
drafts is imported to the last one. -/
structure ChecksOnce (v : Service) : Prop where
  added : ∀ (p : Payload) (d : Draft) (id : String), Draft.read p = .valid d →
    restored (d.storedRecord id) = .ok (d.toStrategy id)
  imported : ∀ (p : Payload) (d : Draft) (id : String), Draft.read p = .valid d →
    restored (d.importedRecord id) = .ok (d.toImported id)
  updated : ∀ (p : Payload) (r : Revision) (id : String) (s : Strategy),
    Revision.read p = .valid r → v.catalog.get? id = some s →
    restored (r.mergedRecord s id) = .ok { r.apply s with id }
  batch : ∀ (payloads : List Payload) (drafts : List Draft),
    Command.readDrafts payloads = .ok drafts → ∃ imported,
      (v.importDrafts drafts).answer = .ok imported ∧
        List.Forall₂ (fun d s => ∃ id, s = d.toImported id) drafts imported

theorem Reachable.checksOnce {v : Service} (h : v.Reachable) : v.ChecksOnce where
  added _ _ id hd := Draft.restored_storedRecord (Draft.isValid_of_read hd) id
  imported _ _ id hd := Draft.restored_importedRecord (Draft.isValid_of_read hd) id
  updated _ _ id _ hr found :=
    Revision.restored_mergedRecord hr (h.wellFormed.isValid_of_get? found) id
  batch _ _ hds := by
    obtain ⟨next, imported, heq, hall⟩ := v.importDrafts_eq (Command.isValid_of_readDrafts hds)
    exact ⟨imported, congrArg Outcome.answer heq, hall⟩

/-- In every reachable state a failed write changes nothing but the serial number, and whatever
passed its own check is not refused later. -/
theorem Reachable.failed_write_changes_nothing {v : Service} (h : v.Reachable) :
    (∀ command : Command, command.isWrite → (command.run v).failed →
      (command.run v).service = { v with serial := (command.run v).service.serial }) ∧
    v.ChecksOnce := by
  refine ⟨fun command write failed => ?_, h.checksOnce⟩
  have whole := Command.whole_run v (Command.isEdit_of_isWrite write)
  exact whole.service_of_failed failed

/-- A batch whose second draft has no content, after one that is stored on its own. -/
def sampleBatch : List Payload :=
  [.record [("title", .text "C"), ("content", .text "")], .record [("title", .text "D")]]

/-- The batch is refused as a whole; a strategy whose content is no text is refused after its id was
drawn; and a revision of a strategy that is there is accepted. -/
theorem Reachable.failed_write_changes_nothing_sample :
    (Command.run sample (.importDrafts (sampleBatch.take 1))).failed = false ∧
    (Command.run sample (.importDrafts sampleBatch)).service = sample ∧
    (Command.run sample (.addCustom "E" .null .null)).service = { sample with serial := 2 } ∧
    ∃ r s, Revision.read (.record [("title", .text "F"), ("section", .null)]) = .valid r ∧
      sample.catalog.get? "a" = some s ∧
      restored (r.mergedRecord s "a") = .ok { r.apply s with id := "a" } := by
  obtain ⟨atomic, once⟩ := Reachable.failed_write_changes_nothing sample_reachable
  refine ⟨by decide, atomic (.importDrafts sampleBatch) rfl (by decide),
    atomic (.addCustom "E" .null .null) rfl (by decide), _, _, rfl, rfl, ?_⟩
  exact once.updated (.record [("title", .text "F"), ("section", .null)]) _ "a" _ rfl rfl

end Service

end PlanCompiler
