import PlanCompiler.Proofs.Catalog.Evolution
import PlanCompiler.Proofs.Service.Reachable

/-!
# How commands let the catalog evolve

Every command has one effect on the strategies (`Command.effect`) and either has it or changes none
of them. A generated id is free because the search for it ends; where every id for a title is taken
it goes on for good, and there is no state after the command (`Command.FindsIds`).

* `Service.Shows`: an outcome that shows an effect, with one lemma for each operation;
* `Command.evolves_run`: every command shows its effect;
* `Reachable.isCustom?_after`: the origin of a strategy after a run;
* `Reachable.catalog_evolves`: built-in strategies stay, and those that users wrote can be deleted.
-/

namespace PlanCompiler

open Schema

namespace Service

/-! ## Operations -/

variable {v : Service} {c : Catalog} {s : Strategy} {d : Draft} {id : String}

theorem Takes.free (h : v.Takes d id)
    (finds : explicitId d = none → v.catalog.HasFreeId addedOrigin d.title) :
    id ∉ v.catalog.ids := by
  cases h with
  | explicit chosen free =>
    refine mt (Entries.contains_iff_mem_keys _ _).2 ?_
    exact Bool.not_eq_true _ ▸ free
  | generated none => exact Catalog.not_mem_ids_freshId (finds none) v.serial

theorem Adds.evolves (h : v.Adds d s c) (distinct : v.catalog.ids.Nodup)
    (finds : explicitId d = none → v.catalog.HasFreeId addedOrigin d.title) :
    Evolves .adds v.catalog.entries c.entries := by
  obtain ⟨takes⟩ := h
  exact Catalog.evolves_insert distinct (takes.free finds)

theorem AddsCustom.evolves {title : String} {content sectionKey : Payload}
    (h : v.AddsCustom title content sectionKey s c) (distinct : v.catalog.ids.Nodup)
    (finds : v.catalog.HasFreeId customOrigin title) :
    Evolves .adds v.catalog.entries c.entries := by
  obtain ⟨-, rfl⟩ := h
  exact Catalog.evolves_insert distinct (Catalog.not_mem_ids_freshId finds v.serial)

/-- A revision has neither id nor origin in it, whatever was sent. -/
theorem Revises.evolves {r : Revision} {p : Payload} (h : v.Revises id r s c)
    (wellFormed : v.catalog.WellFormed) (read : Revision.read p = .valid r) :
    Evolves (.replaces id) v.catalog.entries c.entries := by
  obtain ⟨existing, found, rfl, rfl⟩ := h.exists_apply wellFormed read
  exact Catalog.evolves_revise found rfl rfl

theorem Removes.evolves (h : v.Removes id c) (distinct : v.catalog.ids.Nodup) :
    Evolves (.removes id) v.catalog.entries c.entries := by
  obtain ⟨found, custom⟩ := h
  exact Catalog.evolves_remove distinct found custom

theorem Imports.evolves {drafts : List Draft} {imported : List Strategy}
    (h : v.Imports drafts imported c) (distinct : v.catalog.ids.Nodup)
    (supplied : SuppliesIds v.catalog drafts) : Evolves .adds v.catalog.entries c.entries := by
  obtain ⟨into⟩ := h
  exact Catalog.evolves_insertAll (into.nodup_of_supplies distinct supplied)

theorem nodup_ids_builtIn : (BuiltIn.all.map (·.id)).Nodup := by
  decide

/-- Of the built-in strategies those are added whose ids are not taken. -/
theorem evolves_unseeded (distinct : v.catalog.ids.Nodup) :
    Evolves .adds v.catalog.entries (v.catalog.insertAll v.unseeded).entries := by
  refine Catalog.evolves_insertAll (List.nodup_append.2 ⟨distinct, ?_, ?_⟩)
  · exact nodup_ids_builtIn.sublist (List.filter_sublist.map _)
  · intro id taken other new
    obtain ⟨s, hs, rfl⟩ := List.mem_map.1 new
    rintro rfl
    have there := (Entries.contains_iff_mem_keys _ _).2 taken
    have free := (List.mem_filter.1 hs).2
    rw [Catalog.contains, there] at free
    cases free

end Service

/-! ## Commands -/

namespace Command

/-- What a command is to do to the strategies. -/
def effect : Command → Effect
  | .add _ | .addCustom _ _ _ | .importDrafts _ | .reimport | .seed => .adds
  | .delete id | .removeCustom id => .removes id
  | .update id _ | .updateCustom id _ _ _ => .replaces id
  | .reset => .clears
  | _ => .keeps

/-- Wherever the command draws an id, the search for it ends. -/
def FindsIds (v : Service) : Command → Prop
  | .add draft => ∀ d, Draft.read draft = .valid d → Service.explicitId d = none →
      v.catalog.HasFreeId Service.addedOrigin d.title
  | .addCustom title _ _ => v.catalog.HasFreeId Service.customOrigin title
  | .importDrafts drafts => ∀ ds, readDrafts drafts = .ok ds → Service.SuppliesIds v.catalog ds
  | .reimport => ∀ ds, readDrafts v.exported = .ok ds → Service.SuppliesIds v.catalog ds
  | _ => True

variable {v : Service}

/-- An edit that is made has its effect on the strategies. -/
theorem Makes.evolves {command : Command} {a : Answer} {c : Catalog} (h : Makes v command a c)
    (wellFormed : v.catalog.WellFormed) (finds : command.FindsIds v) :
    Evolves command.effect v.catalog.entries c.entries := by
  have distinct := wellFormed.distinct
  cases h with
  | add read adds => exact adds.evolves distinct (finds _ read)
  | update read revises => exact revises.evolves wellFormed read
  | delete removes | removeCustom removes => exact removes.evolves distinct
  | addCustom adds => exact adds.evolves distinct finds
  | updateCustom revises =>
    obtain ⟨-, read, revises⟩ := revises
    exact revises.evolves wellFormed (Model.named_eq_ok_iff.1 read)
  | importDrafts read imports | reimport read imports =>
    exact imports.evolves distinct (finds _ read)
  | saveConfigs _ => exact .unchanged
  | seed => exact Service.evolves_unseeded distinct
  | reset => exact .cleared

/-- A command leaves the strategies as they were or has its effect on them. -/
theorem evolves_run (wellFormed : v.catalog.WellFormed) {command : Command}
    (finds : command.FindsIds v) :
    Evolves command.effect v.catalog.entries (command.run v).service.catalog.entries := by
  rcases strategies_run v command with same | ⟨a, made⟩
  · rw [same]
    exact .unchanged
  · exact made.evolves wellFormed finds

theorem eq_reset_of_effect {command : Command} (h : command.effect = .clears) :
    command = .reset := by
  cases command <;> first | rfl | cases h

/-- A strategy that a user wrote is deleted by each command that is to remove it. -/
theorem removed_of_isCustom? {id : String} (there : v.catalog.isCustom? id = some true)
    {command : Command} (h : command.effect = .removes id) :
    (command.run v).answer = .ok (.flag true) ∧
      (command.run v).service.catalog = v.catalog.remove id := by
  obtain ⟨s, found, custom⟩ := Option.map_eq_some_iff.1 there
  have deleted : v.delete id =
      { answer := .ok true
        service := v.withCatalog (v.catalog.remove id)
        events := [.deleted id (v.catalog.clientsOf id).length] } := by
    rw [Service.delete, found]
    exact if_pos custom
  cases command with
  | delete other =>
    obtain ⟨rfl⟩ := h
    rw [run, deleted]
    exact ⟨rfl, rfl⟩
  | removeCustom other =>
    obtain ⟨rfl⟩ := h
    have known : v.custom? id = some s := by
      rw [Service.custom?, found]
      exact if_pos custom
    rw [run, Service.removeCustom, known]
    simp only [deleted]
    exact ⟨rfl, rfl⟩
  | _ => cases h

/-- How many ids a command draws at most. -/
def draws (v : Service) : Command → Nat
  | .add _ | .addCustom _ _ _ => 1
  | .importDrafts drafts => drafts.length
  | .reimport => v.catalog.customStrategies.length
  | _ => 0

/-- While there is room for all that a command may add, the search for an id ends. -/
theorem findsIds_of_room {command : Command}
    (room : v.catalog.size + command.draws v ≤ Catalog.serialBound) : command.FindsIds v := by
  cases command with
  | add draft => exact fun d _ _ => Catalog.hasFreeId_of_room (Nat.lt_of_succ_le room) _ _
  | addCustom title content sectionKey =>
    exact Catalog.hasFreeId_of_room (Nat.lt_of_succ_le room) _ _
  | importDrafts drafts =>
    intro ds hds
    refine Service.suppliesIds_of_room ?_
    rwa [← (forall₂_of_readEach hds).length_eq]
  | reimport =>
    intro ds hds
    refine Service.suppliesIds_of_room ?_
    rwa [← (forall₂_of_readEach hds).length_eq, Service.exported, List.length_map]
  | _ => trivial

end Command

/-! ## Runs -/

namespace Service

variable {v : Service} {commands : List Command} {id : String}

/-- Along a run every search for an id ends. -/
def FindsIds (v : Service) : List Command → Prop
  | [] => True
  | command :: rest => command.FindsIds v ∧ (command.run v).service.FindsIds rest

/-- In every run without a reset a strategy stays and keeps its origin, unless a user wrote it and
deletes it. -/
theorem Reachable.isCustom?_after (h : v.Reachable) (noReset : .reset ∉ commands)
    (finds : v.FindsIds commands) {custom : Bool} (there : v.catalog.isCustom? id = some custom)
    (spared : custom = true → ∀ command ∈ commands, command.effect ≠ .removes id) :
    (v.after commands).catalog.isCustom? id = some custom := by
  induction commands generalizing v with
  | nil => exact there
  | cons command rest ih =>
    have next : (command.run v).service.Reachable := h.after [command]
    have shown := Command.evolves_run h.wellFormed finds.1
    have kept : command.effect ≠ .clears := fun e =>
      List.ne_of_not_mem_cons noReset (Command.eq_reset_of_effect e).symm
    have still := shown.isCustom?_eq h.wellFormed.distinct next.wellFormed.distinct kept there
      fun yes => spared yes command List.mem_cons_self
    refine ih next (List.not_mem_of_not_mem_cons noReset) finds.2 still fun yes later hlater => ?_
    exact spared yes later (List.mem_cons_of_mem _ hlater)

/-- In every reachable state a command leaves the ordered strategies as they were or changes them as
it is to do, so long as its search for an id ends. So in every run without a reset, whatever is
sent, a built-in strategy stays in the catalog as one, and a strategy that a user wrote stays as one
until it is deleted, which each of the commands to that end does. -/
theorem Reachable.catalog_evolves (h : v.Reachable) :
    (∀ command : Command, command.FindsIds v →
      Evolves command.effect v.catalog.entries (command.run v).service.catalog.entries) ∧
    ∀ commands : List Command, .reset ∉ commands → v.FindsIds commands → ∀ id,
      (v.catalog.isCustom? id = some false →
        (v.after commands).catalog.isCustom? id = some false) ∧
      (v.catalog.isCustom? id = some true →
        (∀ command ∈ commands, command.effect ≠ .removes id) →
        (v.after commands).catalog.isCustom? id = some true ∧
        ∀ command : Command, command.effect = .removes id →
          (command.run (v.after commands)).answer = .ok (.flag true) ∧
          (command.run (v.after commands)).service.catalog.isCustom? id = none) := by
  refine ⟨fun command finds => Command.evolves_run h.wellFormed finds,
    fun commands noReset finds id => ⟨fun builtIn => ?_, fun custom spared => ?_⟩⟩
  · exact h.isCustom?_after noReset finds builtIn nofun
  · have still := h.isCustom?_after noReset finds custom fun _ => spared
    refine ⟨still, fun command removes => ?_⟩
    obtain ⟨answer, removed⟩ := Command.removed_of_isCustom? still removes
    exact ⟨answer, removed ▸ Catalog.isCustom?_remove _ id⟩

/-- Payloads that name the id and the origin of a strategy, an import and an addition under the id
of one that is built in, and the deletion of that one. -/
def sampleAttempts : List Command :=
  [.update "a" (.record [("title", .text "N"), ("id", .text "n"), ("isCustom", .boolean true),
      ("is_custom", .boolean true)]),
    .update "custom-t-00000001" (.record [("isCustom", .boolean false)]),
    .importDrafts [.record [("id", .text "a"), ("title", .text "A"), ("content", .text "")]],
    .add (.record [("id", .text "a"), ("title", .text "A"), ("content", .text ""),
      ("isCustom", .boolean true)]),
    .seed, .delete "a", .removeCustom "a"]

/-- The built-in strategy gets its new title and stays where it is; the strategy that a user wrote
stays one and is deleted. -/
theorem Reachable.catalog_evolves_sample :
    (sample.after sampleChanges).catalog.ids =
      ["a", "custom-t-00000001", "imported-t-00000002"] ∧
    Evolves (.replaces "a") (sample.after sampleChanges).catalog.entries
      (Command.run (sample.after sampleChanges) sampleAttempts[0]).service.catalog.entries ∧
    ((sample.after sampleChanges).after sampleAttempts).catalog.isCustom? "a" = some false ∧
    (Command.run ((sample.after sampleChanges).after sampleAttempts)
      (.delete "custom-t-00000001")).answer = .ok (.flag true) := by
  obtain ⟨step, run⟩ := Reachable.catalog_evolves (sample_reachable.after sampleChanges)
  have finds : (sample.after sampleChanges).FindsIds sampleAttempts :=
    ⟨trivial, trivial, Command.findsIds_of_room (by decide), Command.findsIds_of_room (by decide),
      trivial, trivial, trivial, trivial⟩
  have runs := run sampleAttempts (by simp [sampleAttempts]) finds
  have deletable := ((runs "custom-t-00000001").2 (by decide) (by decide)).2
  exact ⟨by decide, step _ finds.1, (runs "a").1 (by decide), (deletable (.delete _) rfl).1⟩

end Service

end PlanCompiler
