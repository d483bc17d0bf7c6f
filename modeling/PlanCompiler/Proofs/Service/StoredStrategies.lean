import PlanCompiler.Proofs.Service.Reachable

/-!
# What the catalog stores

A strategy comes into the catalog as a draft, in the short form, by an import or with the built-in
ones, and is changed field by field afterwards. Whichever way it took, it stands under its own id
and is read again as it is from all that is written of it.

* `Text.isIdentifier_iff`, `InputField.hasOptions_iff`: what an accepted input field looks like;
* `Catalog.Stores`: what is known of a strategy and of the key it stands under;
* `Reachable.strategies_well_stored`: all that is in the catalog of a reachable state is stored so.
-/

namespace PlanCompiler

open Schema

theorem Text.isIdentifier_iff (s : String) :
    isIdentifier s.toList = true ↔ s ≠ "" ∧ ∀ c ∈ s.toList,
      ('a' ≤ c ∧ c ≤ 'z') ∨ ('A' ≤ c ∧ c ≤ 'Z') ∨ ('0' ≤ c ∧ c ≤ '9') ∨ c = '_' := by
  simp [isIdentifier, isWordChar, or_assoc]

theorem InputField.hasOptions_iff (f : InputField) :
    f.hasOptions = true ↔ (f.type = .select → ∃ first rest, f.options = some (first :: rest)) := by
  have offered : (f.options.any fun options => !options.isEmpty) = true ↔
      ∃ first rest, f.options = some (first :: rest) := by
    rcases f.options with _ | _ | ⟨first, rest⟩ <;> simp
  rw [hasOptions, Bool.or_eq_true, decide_eq_true_iff, offered, Ne, imp_iff_not_or]

namespace Catalog

/-- A strategy stored under a key. What is written of it, in either spelling, is read as the
strategy itself. -/
structure Stores (key : String) (s : Strategy) : Prop where
  id : s.id = key
  key_ne_empty : key ≠ ""
  title_ne_empty : s.title ≠ ""
  /-- Field ids are made of letters, digits and underscores. -/
  identifier : ∀ f ∈ s.inputFields, f.id ≠ "" ∧ ∀ c ∈ f.id.toList,
    ('a' ≤ c ∧ c ≤ 'z') ∨ ('A' ≤ c ∧ c ≤ 'Z') ∨ ('0' ≤ c ∧ c ≤ '9') ∨ c = '_'
  /-- A field to select from offers something to select. -/
  options : ∀ f ∈ s.inputFields, f.type = .select →
    ∃ first rest, f.options = some (first :: rest)
  sent : Model.strategy.named (Strategy.read s.write) = .ok s
  restored : Service.restored (s.recordAs Key.plain) = .ok s

theorem WellFormed.stores {c : Catalog} (h : c.WellFormed) {entry : String × Strategy}
    (mem : entry ∈ c.entries) : Stores entry.1 entry.2 := by
  have valid := h.valid entry mem
  exact
    { id := h.keyed entry mem
      key_ne_empty := h.filled entry.1 (Entries.mem_keys_of_mem mem)
      title_ne_empty := fun empty => by
        have titled := valid.titled
        rw [empty] at titled
        cases titled
      identifier := fun f hf =>
        (Text.isIdentifier_iff f.id).1 (valid.inputFields f hf).identifier
      options := fun f hf => f.hasOptions_iff.1 (valid.inputFields f hf).options
      sent := Model.named_eq_ok_iff.2 (Strategy.read_recordAs Key.isSpelling_wire valid)
      restored := Strategy.restored_recordAs valid }

end Catalog

namespace Service

/-- In every reachable state no two strategies have the same id, and each of them is stored under
its own one, as it could be sent. -/
theorem Reachable.strategies_well_stored {v : Service} (h : v.Reachable) :
    v.catalog.ids.Nodup ∧ ∀ entry ∈ v.catalog.entries, Catalog.Stores entry.1 entry.2 :=
  ⟨h.wellFormed.distinct, fun _ mem => h.wellFormed.stores mem⟩

/-- The strategies of the sample are stored so after these changes as well. -/
theorem Reachable.strategies_well_stored_sample :
    (sample.after sampleChanges).catalog.ids =
      ["a", "custom-t-00000001", "imported-t-00000002"] ∧
    ∃ s, (sample.after sampleChanges).catalog.get? "a" = some s ∧
      s.inputFields.map (·.type) = [.select] ∧ Catalog.Stores "a" s := by
  have stored := (Reachable.strategies_well_stored (sample_reachable.after sampleChanges)).2
  refine ⟨by decide, _, rfl, by decide, stored ("a", _) (Entries.mem_of_get? rfl)⟩

end Service

end PlanCompiler
