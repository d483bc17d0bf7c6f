import PlanCompiler.Proofs.Catalog.Drawing
import PlanCompiler.Proofs.Service.Reachable

/-!
# Strategies under generated ids

Three operations draw ids: adding a strategy whose draft does not insist on one, adding a strategy
that a user wrote, and importing, which draws an id for each draft in the catalog that holds the
strategies before it. In a catalog with room each of these draws ends, and the strategy comes to the
end of the catalog under an id that no other one has.

* `StoresDrawn`: one strategy stored under a drawn id, for `add` and `addCustom`;
* `DrawnInto`: drafts that become strategies under drawn ids, one after another;
* `DrawnInto.entries_foldl`, `DrawnInto.new_ids`: what a batch leaves of the catalog;
* `generated_ids_are_new`: all three operations.
-/

namespace PlanCompiler.Service

open Schema
open Catalog (generatedId serialBound)

/-! ## One strategy -/

/-- The operation draws an id with the numbers from the serial number of the service on, and is done
after one draw more than there are strategies, or earlier. It stores one strategy under that id, at
the end of the catalog, and the next draw starts behind the last number. -/
def StoresDrawn (v : Service) (origin title : String) (o : Outcome Answer) : Prop :=
  ∃ draws last s, draws ≤ v.catalog.size + 1 ∧
    v.catalog.Draws origin title v.serial draws last ∧
    s.id = generatedId origin title last ∧ s.id ∉ v.catalog.ids ∧
    o.answer = .ok (.strategy s) ∧
    o.service.catalog.entries = v.catalog.entries ++ [(s.id, s)] ∧
    o.service.serial = v.serial + draws

variable {v : Service}

/-- An operation that inserts a strategy under the number that the catalog finds. -/
theorem storesDrawn_of_insert {origin title : String} (room : v.catalog.size < serialBound)
    {s : Strategy} {o : Outcome Answer}
    (id : s.id = generatedId origin title (v.catalog.freshSerial origin title v.serial))
    (answer : o.answer = .ok (.strategy s)) (catalog : o.service.catalog = v.catalog.insert s)
    (serial : o.service.serial = v.catalog.freshSerial origin title v.serial + 1) :
    v.StoresDrawn origin title o := by
  obtain ⟨draws, few, drawn⟩ := Catalog.exists_draws_le room origin title v.serial
  have free : s.id ∉ v.catalog.ids := id ▸ drawn.free_last
  refine ⟨draws, _, s, few, drawn, id, free, answer, ?_, ?_⟩
  · rw [catalog]
    exact Catalog.entries_place free
  · rw [serial, drawn.last_eq]

theorem storesDrawn_add (room : v.catalog.size < serialBound) {p : Payload} {d : Draft}
    (read : Draft.read p = .valid d) (unnamed : explicitId d = none) :
    v.StoresDrawn addedOrigin d.title (Command.run v (.add p)) := by
  have added : v.add d =
      addUnder { v with serial := v.catalog.freshSerial addedOrigin d.title v.serial + 1 }
        (generatedId addedOrigin d.title
          (v.catalog.freshSerial addedOrigin d.title v.serial)) d := by
    rw [add, unnamed]
  rw [Command.run, Model.named_eq_ok_iff.2 read, checked_ok, added,
    addUnder_eq _ _ (Draft.isValid_of_read read)]
  exact storesDrawn_of_insert room rfl rfl rfl rfl

theorem storesDrawn_addCustom (room : v.catalog.size < serialBound) {title : String}
    {content sectionKey : Payload} {body : StrategyBody}
    (read : customBody title content sectionKey = .valid body) :
    v.StoresDrawn customOrigin title (Command.run v (.addCustom title content sectionKey)) := by
  rw [Command.run, addCustom, Model.named_eq_ok_iff.2 read, checked_ok]
  exact storesDrawn_of_insert room rfl rfl rfl rfl

/-! ## A batch -/

/-- Drafts become strategies one after another. An id is drawn for each of them in the catalog that
holds the strategies before it, with the numbers from `serial` on, and the next draw starts behind
the last number. -/
inductive DrawnInto : Catalog → (serial : Nat) → List Draft → List Strategy → (next : Nat) → Prop
  | nil {c : Catalog} {serial : Nat} : DrawnInto c serial [] [] serial
  | cons {c : Catalog} {serial draws last next : Nat} {d : Draft} {rest : List Draft}
    {imported : List Strategy} (few : draws ≤ c.size + 1)
    (drawn : c.Draws importedOrigin d.title serial draws last)
    (later : DrawnInto (c.place (d.toImported (generatedId importedOrigin d.title last))) (last + 1)
      rest imported next) :
    DrawnInto c serial (d :: rest)
      (d.toImported (generatedId importedOrigin d.title last) :: imported) next

variable {c : Catalog} {serial next : Nat} {drafts : List Draft} {imported : List Strategy}

/-- The strategies of a batch go to the end of the catalog in their order. -/
theorem DrawnInto.entries_foldl (h : DrawnInto c serial drafts imported next) :
    (imported.foldl Catalog.place c).entries =
      c.entries ++ imported.map fun s => (s.id, s) := by
  induction h with
  | nil => exact (List.append_nil _).symm
  | @cons c serial draws last next d rest imported few drawn later ih =>
    have free : (d.toImported (generatedId importedOrigin d.title last)).id ∉ c.ids :=
      drawn.free_last
    rw [List.foldl_cons, ih, Catalog.entries_place free, List.append_assoc]
    rfl

/-- No strategy of a batch gets an id that was taken before, and no two of them get the same. -/
theorem DrawnInto.new_ids (h : DrawnInto c serial drafts imported next) :
    (imported.map (·.id)).Nodup ∧ ∀ s ∈ imported, s.id ∉ c.ids := by
  induction h with
  | nil => exact ⟨List.nodup_nil, fun s hs => by cases hs⟩
  | @cons c serial draws last next d rest imported few drawn later ih =>
    have free : (d.toImported (generatedId importedOrigin d.title last)).id ∉ c.ids :=
      drawn.free_last
    -- The drafts after this one meet its id as one that is taken.
    rw [Catalog.ids_place free] at ih
    have apart (s : Strategy) (hs : s ∈ imported) := List.mem_append.not.1 (ih.2 s hs)
    refine ⟨List.nodup_cons.2 ⟨fun mem => ?_, ih.1⟩, fun s hs => ?_⟩
    · obtain ⟨s, hs, same⟩ := List.mem_map.1 mem
      exact apart s hs (.inr (List.mem_singleton.2 same))
    · rcases List.mem_cons.1 hs with rfl | later
      · exact free
      · exact fun taken => apart s later (.inl taken)

/-- Accepted drafts are stored all of them while there is room, each under an id of its own. -/
theorem importEach_draws (v : Service) (valid : ∀ d ∈ drafts, d.toStrategyBody.IsValid)
    (room : v.catalog.size + drafts.length ≤ serialBound) :
    ∃ next imported, v.importEach drafts =
        { answer := .ok imported
          service :=
            { v with catalog := imported.foldl Catalog.place v.catalog, serial := next } } ∧
      DrawnInto v.catalog v.serial drafts imported next := by
  induction drafts generalizing v with
  | nil => exact ⟨v.serial, [], rfl, .nil⟩
  | cons d rest ih =>
    rw [List.length_cons] at room
    obtain ⟨draws, few, drawn⟩ :=
      Catalog.exists_draws_le (c := v.catalog) (by omega) importedOrigin d.title v.serial
    let stored := d.toImported
      (generatedId importedOrigin d.title (v.catalog.freshSerial importedOrigin d.title v.serial))
    have larger : (v.catalog.place stored).size = v.catalog.size + 1 :=
      Catalog.size_place drawn.free_last
    obtain ⟨next, imported, hrest, later⟩ :=
      ih (withCatalog { v with serial := v.catalog.freshSerial importedOrigin d.title v.serial + 1 }
          (v.catalog.place stored))
        (fun e he => valid e (List.mem_cons_of_mem _ he))
        (show (v.catalog.place stored).size + rest.length ≤ serialBound by omega)
    refine ⟨next, stored :: imported, ?_, .cons few drawn later⟩
    rw [importEach, Draft.restored_importedRecord (valid d List.mem_cons_self), checked_ok, hrest]
    rfl

theorem importDrafts_draws (v : Service) (valid : ∀ d ∈ drafts, d.toStrategyBody.IsValid)
    (room : v.catalog.size + drafts.length ≤ serialBound) :
    ∃ imported, (v.importDrafts drafts).answer = .ok imported ∧
      DrawnInto v.catalog v.serial drafts imported (v.importDrafts drafts).service.serial ∧
      (v.importDrafts drafts).service.catalog.entries =
        v.catalog.entries ++ imported.map fun s => (s.id, s) := by
  obtain ⟨next, imported, heq, into⟩ := v.importEach_draws valid room
  have done : (v.importDrafts drafts).answer = .ok imported ∧
      (v.importDrafts drafts).service.serial = next ∧
      (v.importDrafts drafts).service.catalog.entries =
        (imported.foldl Catalog.place v.catalog).entries := by
    rw [importDrafts, heq]
    cases imported <;> exact ⟨rfl, rfl, rfl⟩
  obtain ⟨answer, serial, entries⟩ := done
  exact ⟨imported, answer, serial ▸ into, entries.trans into.entries_foldl⟩

/-! ## All three operations -/

/-- In a catalog with fewer strategies than there are serial numbers, whatever ids they have, and
with any number to go on from, drawing an id ends after one draw more than there are strategies or
earlier. So a draft that does not insist on an id, a strategy that a user wrote and every draft of
an imported batch that there is room for is stored under an id that no other strategy has, and all
that was in the catalog before stays as it was. -/
theorem generated_ids_are_new (v : Service) :
    (v.catalog.size < serialBound →
      (∀ origin title serial, ∃ draws last, draws ≤ v.catalog.size + 1 ∧
        v.catalog.Draws origin title serial draws last ∧
        generatedId origin title last ∉ v.catalog.ids) ∧
      (∀ p d, Draft.read p = .valid d → explicitId d = none →
        v.StoresDrawn addedOrigin d.title (Command.run v (.add p))) ∧
      ∀ title content sectionKey body, customBody title content sectionKey = .valid body →
        v.StoresDrawn customOrigin title (Command.run v (.addCustom title content sectionKey))) ∧
    ∀ payloads drafts, Command.readDrafts payloads = .ok drafts →
      v.catalog.size + drafts.length ≤ serialBound →
      ∃ imported, (Command.run v (.importDrafts payloads)).answer = .ok (.strategies imported) ∧
        DrawnInto v.catalog v.serial drafts imported
          (Command.run v (.importDrafts payloads)).service.serial ∧
        (imported.map (·.id)).Nodup ∧ (∀ s ∈ imported, s.id ∉ v.catalog.ids) ∧
        (Command.run v (.importDrafts payloads)).service.catalog.entries =
          v.catalog.entries ++ imported.map fun s => (s.id, s) := by
  refine ⟨fun room => ⟨fun origin title serial => ?_, fun p d read unnamed => ?_,
    fun title content sectionKey body read => ?_⟩, fun payloads drafts read room => ?_⟩
  · obtain ⟨draws, few, drawn⟩ := Catalog.exists_draws_le room origin title serial
    exact ⟨draws, _, few, drawn, drawn.free_last⟩
  · exact storesDrawn_add room read unnamed
  · exact storesDrawn_addCustom room read
  · obtain ⟨imported, answer, into, entries⟩ :=
      v.importDrafts_draws (Command.isValid_of_readDrafts read) room
    rw [Command.run, read, checked_ok]
    exact ⟨imported, congrArg (Except.map Answer.strategies) answer, into, into.new_ids.1,
      into.new_ids.2, entries⟩

/-- A draft with the given fields and an empty text. -/
def sampleTitled (fields : Entries Payload) : Payload :=
  .record (fields ++ [("content", .text "")])

/-- Strategies whose explicit ids look like generated ones, and the last serial number before they
start again from zero. -/
def sampleImitated : Service :=
  ((started {} (["strategy-t-ffffffff", "strategy-t-00000000", "imported-t-00000000"].map fun id =>
    sampleTitled [("id", .text id), ("title", .text "T")])).toOption.getD {}).after
    [.setSerial 0xffffffff]

/-- Two titles that give the same slug. -/
def sampleAlike : List Payload :=
  [sampleTitled [("title", .text "T")], sampleTitled [("title", .text "t!")]]

/-- Two ids are taken before a free one is drawn. In the batch the first draft gets the id before
the numbers start again, and the second one passes over the id that is taken. -/
theorem generated_ids_are_new_sample :
    sampleImitated.catalog.ids =
      ["strategy-t-ffffffff", "strategy-t-00000000", "imported-t-00000000"] ∧
    sampleImitated.serial = 0xffffffff ∧
    sampleImitated.StoresDrawn addedOrigin "T" (Command.run sampleImitated (.add sampleAlike[0])) ∧
    (Command.run sampleImitated (.add sampleAlike[0])).service.catalog.ids =
      ["strategy-t-ffffffff", "strategy-t-00000000", "imported-t-00000000",
        "strategy-t-00000001"] ∧
    ∃ imported,
      (Command.run sampleImitated (.importDrafts sampleAlike)).answer =
        .ok (.strategies imported) ∧
      (imported.map (·.id)).Nodup ∧ (∀ s ∈ imported, s.id ∉ sampleImitated.catalog.ids) ∧
      (Command.run sampleImitated (.importDrafts sampleAlike)).service.catalog.ids =
        ["strategy-t-ffffffff", "strategy-t-00000000", "imported-t-00000000",
          "imported-t-ffffffff", "imported-t-00000001"] := by
  obtain ⟨single, batch⟩ := generated_ids_are_new sampleImitated
  have room : sampleImitated.catalog.size + 2 ≤ serialBound := by decide
  obtain ⟨drafts, read, two⟩ : ∃ drafts, Command.readDrafts sampleAlike = .ok drafts ∧
      drafts.length = 2 := ⟨_, rfl, rfl⟩
  obtain ⟨imported, answer, -, distinct, new, -⟩ := batch sampleAlike drafts read (two ▸ room)
  exact ⟨by decide, by decide, (single (by decide)).2.1 sampleAlike[0] _ rfl rfl, by decide,
    imported, answer, distinct, new, by decide⟩

end PlanCompiler.Service
