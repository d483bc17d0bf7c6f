import PlanCompiler.Proofs.Service.Operation
import PlanCompiler.Service.Command

/-!
# What a command does

Everything that one command can do to a service. It edits the catalog, all of it or nothing; or it
reads, and then it rebuilds the indices at most; or it stores a report; or it sets the number or the
time to go on from. What is said of every command is read off these cases, and what is said of every
edit off those of `Makes`.

* `Command.Makes`: what an edit makes of the catalog, and its answer, one case for each command;
* `Command.whole_run`: an edit makes that in one piece, or nothing;
* `Command.Step`, `Command.step_run`: the cases for all commands;
* `Command.change_run`: every command makes one of the changes of the catalog.
-/

namespace PlanCompiler

open Schema

/-- The answer says that something is not there. -/
def Answer.isMissing : Answer → Bool
  | .maybeStrategy none => true
  | .flag false => true
  | _ => false

theorem Answer.isMissing_maybeStrategy_iff (s? : Option Strategy) :
    (Answer.maybeStrategy s?).isMissing = true ↔ s? = none := by
  cases s? <;> simp [isMissing]

theorem Answer.isMissing_flag_iff (value : Bool) :
    (Answer.flag value).isMissing = true ↔ value = false := by
  cases value <;> simp [isMissing]

namespace Command

/-! ## Payloads in lists -/

/-- Payloads that are read one after another give one value each. -/
theorem forall₂_of_readEach {α : Type} {model : Model} {read : Payload → Checked α}
    {payloads : List Payload} {values : List α} (h : readEach model read payloads = .ok values) :
    List.Forall₂ (fun p a => read p = .valid a) payloads values := by
  induction payloads generalizing values with
  | nil =>
    cases h
    exact .nil
  | cons p rest ih =>
    rw [readEach] at h
    cases first : model.named (read p) with
    | error rejection =>
      rw [first] at h
      cases h
    | ok a =>
      rw [first] at h
      cases later : readEach model read rest with
      | error rejection =>
        simp only [later] at h
        cases h
      | ok as =>
        simp only [later] at h
        cases h
        exact .cons (Model.named_eq_ok_iff.1 first) (ih later)

/-- Drafts that were read one after another are valid. -/
theorem isValid_of_readDrafts {payloads : List Payload} {drafts : List Draft}
    (h : readDrafts payloads = .ok drafts) : ∀ d ∈ drafts, d.toStrategyBody.IsValid := by
  intro d hd
  obtain ⟨p, -, hp⟩ := exists_of_forall₂ (forall₂_of_readEach h) hd
  exact Draft.isValid_of_read hp

/-- What is written of values is read as these values, one after another. -/
theorem readEach_map {α β : Type} {model : Model} {read : Payload → Checked β} {write : α → Payload}
    {value : α → β} {items : List α} (h : ∀ a ∈ items, read (write a) = .valid (value a)) :
    readEach model read (items.map write) = .ok (items.map value) := by
  induction items with
  | nil => rfl
  | cons a rest ih =>
    have first : model.named (read (write a)) = .ok (value a) :=
      Model.named_eq_ok_iff.2 (h a List.mem_cons_self)
    have later := ih fun b hb => h b (List.mem_cons_of_mem _ hb)
    rw [List.map_cons, readEach, first]
    simp only [later]
    rfl

/-! ## Kinds of commands -/

/-- The command is to change strategies or what clients have stored. -/
def isWrite : Command → Bool
  | .add _ | .update _ _ | .delete _ | .addCustom _ _ _ | .updateCustom _ _ _ _ | .removeCustom _
  | .importDrafts _ | .reimport | .saveConfigs _ _ => true
  | _ => false

/-- The command is a write, or it resets the catalog in one of two ways. -/
def isEdit : Command → Bool
  | .seed | .reset => true
  | command => command.isWrite

/-- The command only reads. -/
def isRead : Command → Bool
  | .get _ | .contains _ | .list | .listCustom | .byCategory _ | .bySection _ | .bySubsection _
  | .exportCustom | .getConfigs _ | .clients | .organize _ _ | .compile _ | .buildConfigurations _
  | .getReport _ | .exportReport _ | .listReports _ => true
  | _ => false

/-- The command reads an index. -/
def readsIndex : Command → Bool
  | .byCategory _ | .bySection _ | .bySubsection _ => true
  | _ => false

/-- The command sets the number or the time to go on from. -/
def isSetting : Command → Bool
  | .setSerial _ | .setClock _ => true
  | _ => false

theorem isEdit_of_isWrite {command : Command} (write : command.isWrite = true) :
    command.isEdit = true := by
  cases command with
  | seed | reset => rfl
  | _ => exact write

/-! ## Edits -/

/-- What an edit makes of the catalog, and what it is answered. -/
inductive Makes (v : Service) : Command → Answer → Catalog → Prop
  | add {draft : Payload} {d : Draft} {s : Strategy} {c : Catalog}
    (read : Draft.read draft = .valid d) (adds : v.Adds d s c) :
    Makes v (.add draft) (.strategy s) c
  | update {id : String} {revision : Payload} {r : Revision} {s : Strategy} {c : Catalog}
    (read : Revision.read revision = .valid r) (revises : v.Revises id r s c) :
    Makes v (.update id revision) (.maybeStrategy (some s)) c
  | delete {id : String} {c : Catalog} (removes : v.Removes id c) :
    Makes v (.delete id) (.flag true) c
  | addCustom {title : String} {content sectionKey : Payload} {s : Strategy} {c : Catalog}
    (adds : v.AddsCustom title content sectionKey s c) :
    Makes v (.addCustom title content sectionKey) (.strategy s) c
  | updateCustom {id : String} {title content sectionKey : Payload} {s : Strategy} {c : Catalog}
    (revises : v.RevisesCustom id (customRevision title content sectionKey) s c) :
    Makes v (.updateCustom id title content sectionKey) (.maybeStrategy (some s)) c
  | removeCustom {id : String} {c : Catalog} (removes : v.Removes id c) :
    Makes v (.removeCustom id) (.flag true) c
  | importDrafts {payloads : List Payload} {drafts : List Draft} {imported : List Strategy}
    {c : Catalog} (read : readDrafts payloads = .ok drafts)
    (imports : v.Imports drafts imported c) :
    Makes v (.importDrafts payloads) (.strategies imported) c
  | reimport {drafts : List Draft} {imported : List Strategy} {c : Catalog}
    (read : readDrafts v.exported = .ok drafts) (imports : v.Imports drafts imported c) :
    Makes v .reimport (.strategies imported) c
  | saveConfigs {client : String} {payloads : List Payload} {configs : List ClientConfig}
    (read : readConfigs payloads = .ok configs) :
    Makes v (.saveConfigs client payloads) (.configs (v.catalog.known configs))
      (v.catalog.storeConfigs client configs)
  | seed : Makes v .seed (.count v.unseeded.length) (v.catalog.insertAll v.unseeded)
  | reset : Makes v .reset .nothing v.catalog.cleared

variable {v : Service} {command : Command} {a : Answer} {c : Catalog}

/-- An edit makes what it can make in one piece; if there is nothing that it can make, it is refused
or says that something is missing. -/
theorem whole_run (v : Service) (edit : command.isEdit = true) :
    Outcome.Whole v (·.isMissing = true) (Makes v command) (command.run v) := by
  cases command with
  | add draft =>
    refine .checked_map v.Adds (fun d read => ?_) (fun _ => ⟨nofun, False.elim⟩)
      (fun d read s c adds => .add (Model.named_eq_ok_iff.1 read) adds) fun _ c made => ?_
    · exact Service.whole_add (Draft.isValid_of_read (Model.named_eq_ok_iff.1 read))
    · cases made with
      | add read adds => exact ⟨_, Model.named_eq_ok_iff.2 read, _, adds⟩
  | update id revision =>
    refine .checked_map (fun r s? c => ∃ s, s? = some s ∧ v.Revises id r s c)
      (fun r _ => Service.whole_update id r) Answer.isMissing_maybeStrategy_iff
      (fun r read _ c ⟨s, same, revises⟩ => same ▸ .update (Model.named_eq_ok_iff.1 read) revises)
      fun _ c made => ?_
    cases made with
    | update read revises => exact ⟨_, Model.named_eq_ok_iff.2 read, _, _, rfl, revises⟩
  | delete id =>
    refine (Service.whole_delete id).map Answer.isMissing_flag_iff
      (fun _ c ⟨same, removes⟩ => same ▸ .delete removes) fun _ c made => ?_
    cases made with
    | delete removes => exact ⟨_, rfl, removes⟩
  | addCustom title content sectionKey =>
    refine (Service.whole_addCustom title content sectionKey).map (fun _ => ⟨nofun, False.elim⟩)
      (fun _ c adds => .addCustom adds) fun _ c made => ?_
    cases made with
    | addCustom adds => exact ⟨_, adds⟩
  | updateCustom id title content sectionKey =>
    refine (Service.whole_updateCustom id _).map Answer.isMissing_maybeStrategy_iff
      (fun _ c ⟨s, same, revises⟩ => same ▸ .updateCustom revises) fun _ c made => ?_
    cases made with
    | updateCustom revises => exact ⟨_, _, rfl, revises⟩
  | removeCustom id =>
    refine (Service.whole_removeCustom id).map Answer.isMissing_flag_iff
      (fun _ c ⟨same, removes⟩ => same ▸ .removeCustom removes) fun _ c made => ?_
    cases made with
    | removeCustom removes => exact ⟨_, rfl, removes⟩
  | importDrafts payloads =>
    refine .checked_map v.Imports
      (fun ds read => Service.whole_importDrafts (isValid_of_readDrafts read))
      (fun _ => ⟨nofun, False.elim⟩) (fun ds read _ c imports => .importDrafts read imports)
      fun _ c made => ?_
    cases made with
    | importDrafts read imports => exact ⟨_, read, _, imports⟩
  | reimport =>
    refine .checked_map v.Imports
      (fun ds read => Service.whole_importDrafts (isValid_of_readDrafts read))
      (fun _ => ⟨nofun, False.elim⟩) (fun ds read _ c imports => .reimport read imports)
      fun _ c made => ?_
    cases made with
    | reimport read imports => exact ⟨_, read, _, imports⟩
  | saveConfigs client payloads =>
    refine .checked_map _ (fun configs _ => Service.whole_saveConfigs client configs)
      (fun _ => ⟨nofun, False.elim⟩) (fun configs read kept c ⟨same, stored⟩ => ?_)
      fun _ c made => ?_
    · rw [same, stored]
      exact .saveConfigs read
    · cases made with
      | saveConfigs read => exact ⟨_, read, _, rfl, rfl⟩
  | seed => exact .made rfl nofun .seed rfl
  | reset => exact .made rfl nofun .reset rfl
  | _ => cases edit

/-- Every edit is one of the changes of the catalog. -/
theorem Makes.change (h : Makes v command a c) (wellFormed : v.catalog.WellFormed) :
    Catalog.Change v.catalog c := by
  cases h with
  | add read adds => exact adds.change (Draft.isValid_of_read read)
  | update read revises => exact revises.change wellFormed read
  | delete removes | removeCustom removes => exact removes.change
  | addCustom adds => exact adds.change
  | updateCustom revises =>
    obtain ⟨-, read, revises⟩ := revises
    exact revises.change wellFormed (Model.named_eq_ok_iff.1 read)
  | importDrafts read imports | reimport read imports =>
    exact imports.change (isValid_of_readDrafts read)
  | saveConfigs _ => exact .store _ _
  | seed => exact Service.change_seed
  | reset => exact .clear

/-! ## All commands -/

/-- What a command can leave behind. -/
inductive Step (v : Service) : Command → Outcome Answer → Prop
  | edit {command : Command} {o : Outcome Answer} (edit : command.isEdit = true)
    (whole : Outcome.Whole v (·.isMissing = true) (Makes v command) o) : Step v command o
  | read {command : Command} {o : Outcome Answer} (reads : command.isRead = true)
    (service : o.service =
      v.withCatalog (if command.readsIndex then v.catalog.refreshed else v.catalog)) :
    Step v command o
  /-- A report is compiled and stored, as far as that goes. -/
  | generate {down : Option String} {request : Payload} {o : Outcome Answer} {q : ReportRequest}
    (read : ReportRequest.read request = .valid q)
    (service : o.service = (v.generate down q).service) : Step v (.generate down request) o
  | declined {down : Option String} {request : Payload} {o : Outcome Answer} {issues : List Issue}
    (read : ReportRequest.read request = .invalid issues) (service : o.service = v) :
    Step v (.generate down request) o
  | saveReport {clientId clientData configurations text : Payload} {o : Outcome Answer}
    (service : o.service =
      (v.saveReport none clientId clientData configurations text).service) :
    Step v (.saveReport clientId clientData configurations text) o
  | set {command : Command} {o : Outcome Answer} (serial : Nat) (clock : Instant)
    (sets : command.isSetting = true) (service : o.service = { v with serial, clock }) :
    Step v command o

/-- Whatever is read rebuilds the indices at most. -/
theorem service_run_of_isRead (reads : command.isRead = true) : (command.run v).service =
    v.withCatalog (if command.readsIndex then v.catalog.refreshed else v.catalog) := by
  cases command with
  | compile configs =>
    rw [run]
    cases readConfigs configs <;> rfl
  | buildConfigurations request =>
    rw [run]
    cases Model.reportRequest.named (ReportRequest.read request) <;> rfl
  | getReport id =>
    rw [run]
    split
    · rfl
    · rfl
    · rw [showReport, Service.service_conclude]
      rfl
  | exportReport _ | listReports _ =>
    rw [run, Service.service_conclude]
    rfl
  | get _ | contains _ | list | listCustom | byCategory _ | bySection _ | bySubsection _
  | exportCustom | getConfigs _ | clients | organize _ _ => rfl
  | _ => cases reads

/-- Every command leaves behind what its kind can leave behind, whatever the state is. -/
theorem step_run (v : Service) (command : Command) : Step v command (command.run v) := by
  cases command with
  | generate down request =>
    rw [run]
    cases read : ReportRequest.read request with
    | valid q => exact .generate read rfl
    | invalid issues => exact .declined read rfl
  | saveReport clientId clientData configurations text =>
    refine .saveReport ?_
    rw [run, Outcome.andThen]
    split
    · dsimp only
      rw [showReport, Service.service_conclude]
    · rfl
  | setSerial next => exact .set _ v.clock rfl rfl
  | setClock text =>
    rw [run]
    split
    · exact .set v.serial _ rfl rfl
    · exact .set v.serial v.clock rfl rfl
  | add _ | update _ _ | delete _ | addCustom _ _ _ | updateCustom _ _ _ _ | removeCustom _
  | importDrafts _ | reimport | saveConfigs _ _ | seed | reset => exact .edit rfl (whole_run v rfl)
  | _ => exact .read rfl (service_run_of_isRead rfl)

/-- Strategies are changed by edits only. -/
theorem strategies_run (v : Service) (command : Command) :
    (command.run v).service.catalog.entries = v.catalog.entries ∨
      ∃ a, Makes v command a (command.run v).service.catalog := by
  cases step_run v command with
  | edit _ whole =>
    cases whole with
    | made _ _ made service =>
      rw [service]
      exact .inr ⟨_, made⟩
    | kept _ _ service => exact .inl (service ▸ rfl)
  | read _ service =>
    rw [service, Service.withCatalog]
    split
    · exact .inl (Catalog.entries_refreshed v.catalog)
    · exact .inl rfl
  | generate _ service =>
    rw [service, Service.catalog_generate]
    split
    · exact .inl (Service.entries_catalogWith v _)
    · exact .inl rfl
  | declined _ service =>
    rw [service]
    exact .inl rfl
  | saveReport service =>
    rw [service, Service.catalog_saveReport]
    exact .inl rfl
  | set _ _ _ service => exact .inl (service ▸ rfl)

/-- Every command makes one of the changes of the catalog. One that edits nothing may still rebuild
the indices, or store a client's list on the way to a report. -/
theorem change_run (wellFormed : v.catalog.WellFormed) (command : Command) :
    Catalog.Change v.catalog (command.run v).service.catalog := by
  cases step_run v command with
  | edit _ whole =>
    cases whole with
    | made _ _ made service => exact service ▸ made.change wellFormed
    | kept _ _ service => exact service ▸ .keep
  | read _ service =>
    rw [service, Service.withCatalog]
    split
    · exact .refresh
    · exact .keep
  | generate _ service => exact service ▸ Service.change_generate _ _
  | declined _ service =>
    rw [service]
    exact .keep
  | saveReport service =>
    rw [service, Service.catalog_saveReport]
    exact .keep
  | set _ _ _ service => exact service ▸ .keep

end Command

end PlanCompiler
