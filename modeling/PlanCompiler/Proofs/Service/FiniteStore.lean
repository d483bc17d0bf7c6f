import PlanCompiler.Proofs.Report.Amounts
import PlanCompiler.Proofs.Service.ClientLists
import PlanCompiler.Proofs.Service.ReportLog

/-!
# What is stored stays finite

What a service stores are the default values of strategies, the values in clients' lists, and the
data and configurations of reports. All of their numbers are finite as long as commands bring finite
ones: nothing that a command does makes an infinity out of them.

* `Command.sendsFinite`: the commands that bring finite numbers;
* `Service.IsFinite`: what is stored has finite numbers;
* `Command.Makes.finiteDefaults`: the default values after an edit, one case for each;
* `Command.finiteDefaults_run`, `Command.finiteValues_run`, `Command.finiteReports_run`: what one
  command stores;
* `Service.IsFinite.run`, `Service.IsFinite.after`: a command, and a run.
-/

namespace PlanCompiler

open Schema

/-- The numbers that a command brings are finite. Of the data for a report only the amounts count,
since whatever is outside the form is stored without infinities. -/
def Command.sendsFinite : Command → Bool
  | .add draft => draft.allFinite
  | .update _ revision => revision.allFinite
  | .importDrafts drafts => drafts.all (·.allFinite)
  | .saveConfigs _ configs => configs.all (·.allFinite)
  | .generate _ (.record r) => ReportRequest.amountsFinite r && ReportRequest.configsFinite r
  | .saveReport _ clientData configurations _ => clientData.allFinite && configurations.allFinite
  | _ => true

/-! ## Default values -/

namespace Catalog

/-- The default values of all strategies are finite. -/
def HasFiniteDefaults (c : Catalog) : Prop :=
  ∀ entry ∈ c.entries, entry.2.toStrategyBody.IsFinite

instance (c : Catalog) : Decidable c.HasFiniteDefaults :=
  inferInstanceAs (Decidable (∀ entry ∈ c.entries, entry.2.toStrategyBody.IsFinite))

variable {c : Catalog}

theorem HasFiniteDefaults.of_get? (h : c.HasFiniteDefaults) {id : String} {s : Strategy}
    (found : c.get? id = some s) : s.toStrategyBody.IsFinite :=
  h (id, s) (Entries.mem_of_get? found)

theorem HasFiniteDefaults.insert (h : c.HasFiniteDefaults) {s : Strategy}
    (finite : s.toStrategyBody.IsFinite) : (c.insert s).HasFiniteDefaults := by
  intro entry there
  rcases Entries.mem_put there with old | rfl
  · exact h entry old
  · exact finite

theorem HasFiniteDefaults.insertAll (h : c.HasFiniteDefaults) {news : List Strategy}
    (finite : ∀ s ∈ news, s.toStrategyBody.IsFinite) : (c.insertAll news).HasFiniteDefaults := by
  induction news generalizing c with
  | nil => exact h
  | cons s rest ih =>
    exact ih (h.insert (finite s List.mem_cons_self)) fun t ht =>
      finite t (List.mem_cons_of_mem _ ht)

theorem HasFiniteDefaults.remove (h : c.HasFiniteDefaults) (id : String) :
    (c.remove id).HasFiniteDefaults :=
  fun entry there => h entry (Entries.mem_erase_iff.1 there).1

end Catalog

theorem BuiltIn.isFinite_of_mem : ∀ s ∈ BuiltIn.all, s.toStrategyBody.IsFinite := by
  decide

namespace Service

variable {v : Service} {c : Catalog} {s : Strategy}

/-- A strategy in the short form has no fields. -/
theorem AddsCustom.finiteDefaults {title : String} {content sectionKey : Payload}
    (h : v.AddsCustom title content sectionKey s c) (finite : v.catalog.HasFiniteDefaults) :
    c.HasFiniteDefaults := by
  obtain ⟨read, rfl⟩ := h
  have fields := (StrategyBody.read_eq_valid_iff.1 read).inputFields
  have none := (Checked.valid_inj.1 fields).symm
  refine finite.insert fun f there => ?_
  rw [none] at there
  cases there

theorem Revises.finiteDefaults {id : String} {r : Revision} {p : Payload}
    (h : v.Revises id r s c) (wellFormed : v.catalog.WellFormed)
    (read : Revision.read p = .valid r) (brings : r.IsFinite)
    (finite : v.catalog.HasFiniteDefaults) : c.HasFiniteDefaults := by
  obtain ⟨existing, found, rfl, rfl⟩ := h.exists_apply wellFormed read
  exact finite.insert (brings.apply (finite.of_get? found))

theorem Imports.finiteDefaults {drafts : List Draft} {imported : List Strategy}
    (h : v.Imports drafts imported c) (brings : ∀ d ∈ drafts, d.toStrategyBody.IsFinite)
    (finite : v.catalog.HasFiniteDefaults) : c.HasFiniteDefaults := by
  obtain ⟨into⟩ := h
  refine finite.insertAll fun s hs => ?_
  obtain ⟨d, hd, id, rfl⟩ := exists_of_forall₂ into.forall₂ hs
  exact brings d hd

/-- What is exported has the default values of strategies. -/
theorem allFinite_exported (finite : v.catalog.HasFiniteDefaults) :
    ∀ p ∈ v.exported, p.allFinite = true := by
  intro p there
  obtain ⟨s, hs, rfl⟩ := List.mem_map.1 there
  obtain ⟨entry, hentry, rfl⟩ := List.mem_map.1 (List.mem_filter.1 hs).1
  exact Strategy.allFinite_write_iff.2 (finite entry hentry)

end Service

namespace Command

open Service

variable {v : Service} {command : Command}

theorem isFinite_of_readDrafts {payloads : List Payload} {drafts : List Draft}
    (finite : ∀ p ∈ payloads, p.allFinite = true) (h : readDrafts payloads = .ok drafts) :
    ∀ d ∈ drafts, d.toStrategyBody.IsFinite := by
  intro d hd
  obtain ⟨p, hp, read⟩ := exists_of_forall₂ (forall₂_of_readEach h) hd
  exact Draft.readsFinite p d (finite p hp) read

theorem isFinite_of_readConfigs {payloads : List Payload} {configs : List ClientConfig}
    (finite : ∀ p ∈ payloads, p.allFinite = true) (h : readConfigs payloads = .ok configs) :
    ∀ config ∈ configs, config.IsFinite := by
  intro config hconfig
  obtain ⟨p, hp, read⟩ := exists_of_forall₂ (forall₂_of_readEach h) hconfig
  exact ClientConfig.readsFinite p config (finite p hp) read

/-- A revision in the short form has no fields. -/
theorem isFinite_of_customRevision {title content sectionKey : Payload} {r : Revision}
    (h : customRevision title content sectionKey = .ok r) : r.IsFinite := by
  obtain ⟨_, ⟨⟩, fields⟩ := Revision.read_eq_valid_iff.1 (Model.named_eq_ok_iff.1 h)
  have none : r.inputFields = none := (Checked.valid_inj.1 fields.inputFields).symm
  intro fields there
  rw [none] at there
  cases there

/-- The default values after an edit that brings finite numbers. -/
theorem Makes.finiteDefaults {a : Answer} {c : Catalog} (made : Makes v command a c)
    (wellFormed : v.catalog.WellFormed) (h : v.catalog.HasFiniteDefaults)
    (finite : command.sendsFinite = true) : c.HasFiniteDefaults := by
  cases made with
  | add read adds =>
    obtain ⟨_⟩ := adds
    exact h.insert (Draft.readsFinite _ _ finite read)
  | update read revises =>
    exact revises.finiteDefaults wellFormed read (Revision.readsFinite _ _ finite read) h
  | delete removes | removeCustom removes =>
    obtain ⟨_, _⟩ := removes
    exact h.remove _
  | addCustom adds => exact adds.finiteDefaults h
  | updateCustom revises =>
    obtain ⟨-, read, revises⟩ := revises
    exact revises.finiteDefaults wellFormed (Model.named_eq_ok_iff.1 read)
      (isFinite_of_customRevision read) h
  | importDrafts read imports =>
    exact imports.finiteDefaults (isFinite_of_readDrafts (List.all_eq_true.1 finite) read) h
  | reimport read imports =>
    exact imports.finiteDefaults (isFinite_of_readDrafts (allFinite_exported h) read) h
  | saveConfigs _ => exact h
  | seed => exact h.insertAll fun s hs => BuiltIn.isFinite_of_mem s (List.mem_filter.1 hs).1
  | reset => exact fun _ none => absurd none List.not_mem_nil

/-- The default values after a command that brings finite numbers. -/
theorem finiteDefaults_run (wellFormed : v.catalog.WellFormed) (h : v.catalog.HasFiniteDefaults)
    (finite : command.sendsFinite = true) :
    (command.run v).service.catalog.HasFiniteDefaults := by
  rcases strategies_run v command with same | ⟨a, made⟩
  · rw [Catalog.HasFiniteDefaults, same]
    exact h
  · exact made.finiteDefaults wellFormed h finite

end Command

/-! ## Entered values -/

/-- The values in the lists of all clients are finite. -/
def Catalog.HasFiniteValues (c : Catalog) : Prop :=
  ∀ entry ∈ c.clients, ∀ config ∈ entry.2, config.IsFinite

instance (c : Catalog) : Decidable c.HasFiniteValues :=
  inferInstanceAs (Decidable (∀ entry ∈ c.clients, ∀ config ∈ entry.2, config.IsFinite))

/-- The configurations of an accepted request are finite if it brings finite ones, since the default
values are. -/
theorem ReportRequest.ReadFrom.isFinite_configurations {v : Service} {r : Entries Payload}
    {q : ReportRequest} (h : v.catalog.HasFiniteDefaults) (fields : ReadFrom r q)
    (finite : configsFinite r = true) : ∀ config ∈ q.configurations v.find, config.IsFinite :=
  ReportRequest.isFinite_configurations (fields.isFinite finite) fun _ _ found => h.of_get? found

namespace Command

variable {v : Service} {command : Command}

theorem isFinite_of_saved (h : v.catalog.HasFiniteDefaults) (finite : command.sendsFinite = true)
    {client : String} {configs : List ClientConfig} {there : List String}
    (event : command.clientEvent? v = some (.saved client configs there)) :
    ∀ config ∈ configs, config.IsFinite := by
  cases command with
  | saveConfigs other payloads =>
    rw [clientEvent?] at event
    split at event
    · rename_i read
      cases event
      exact isFinite_of_readConfigs (List.all_eq_true.1 finite) read
    · cases event
  | generate down request =>
    rw [clientEvent?] at event
    split at event
    · rename_i q accepted
      obtain ⟨r, rfl, fields⟩ := ReportRequest.read_eq_valid_iff.1 accepted
      rw [request?] at event
      split at event
      · cases event
        exact fields.isFinite_configurations h (Bool.and_eq_true_iff.1 finite).2
      · cases event
    · cases event
  | delete id | removeCustom id =>
    rw [clientEvent?, deletion?.eq_def] at event
    split at event <;> cases event
  | _ => cases event

/-- The values in clients' lists after a command that brings finite numbers. -/
theorem finiteValues_run (h : v.catalog.HasFiniteDefaults) (values : v.catalog.HasFiniteValues)
    (finite : command.sendsFinite = true) :
    (command.run v).service.catalog.HasFiniteValues := by
  rw [Catalog.HasFiniteValues, clients_run]
  cases event : command.clientEvent? v with
  | none => exact values
  | some e =>
    refine ClientEvent.forall_apply values ?_
    rintro client configs there rfl
    exact isFinite_of_saved h finite event

end Command

/-! ## Reports -/

/-- The data and the configurations of a report have finite numbers. -/
structure StoredReport.IsFinite (r : StoredReport) : Prop where
  clientData : r.clientData.allFinite = true
  configurations : r.configurations.allFinite = true

instance (r : StoredReport) : Decidable r.IsFinite :=
  decidable_of_iff (r.clientData.allFinite = true ∧ r.configurations.allFinite = true)
    ⟨fun h => ⟨h.1, h.2⟩, fun h => ⟨h.clientData, h.configurations⟩⟩

theorem ClientConfig.allFinite_list_iff {configs : List ClientConfig} :
    (Payload.list (configs.map write)).allFinite = true ↔ ∀ config ∈ configs, config.IsFinite := by
  simp [Payload.allFinite, Payload.allFiniteItems_iff, allFinite_write_iff]

namespace Command

variable {v : Service} {command : Command} {r : StoredReport}

/-- A report that is stored for a command that brings finite numbers. -/
theorem isFinite_of_attempt (h : v.catalog.HasFiniteDefaults) (finite : command.sendsFinite = true)
    (attempt : command.attempt? v = some (.ok r)) : r.IsFinite := by
  cases command with
  | generate down request =>
    rw [attempt?] at attempt
    split at attempt
    · rename_i q accepted
      obtain ⟨fields, rfl, readFrom⟩ := ReportRequest.read_eq_valid_iff.1 accepted
      obtain ⟨amounts, configs⟩ := Bool.and_eq_true_iff.1 finite
      obtain ⟨data, written, -, rfl⟩ :=
        Service.answer_generate_eq_ok_iff.1 (Option.some.inj attempt)
      obtain ⟨name, record, -, dataFields, same⟩ := readFrom.exists_data
      exact ⟨(dataFields.allFinite_stored_iff written).2 (same ▸ amounts),
        ClientConfig.allFinite_list_iff.2 (readFrom.isFinite_configurations h configs)⟩
    · cases attempt
  | saveReport clientId clientData configurations text =>
    obtain ⟨data, configs⟩ := Bool.and_eq_true_iff.1 finite
    obtain ⟨sameData, sameConfigs⟩ :=
      Service.parts_of_saveReport (Option.some.inj attempt)
    exact ⟨sameData ▸ data, sameConfigs ▸ configs⟩
  | _ => cases attempt

/-- The reports after a command that brings finite numbers. -/
theorem finiteReports_run (h : v.catalog.HasFiniteDefaults)
    (reports : ∀ r ∈ v.archive.reports, r.IsFinite) (finite : command.sendsFinite = true) :
    ∀ r ∈ (command.run v).service.archive.reports, r.IsFinite := by
  intro r there
  rw [(collects_run v command).reports] at there
  rcases List.mem_append.1 there with old | new
  · exact reports r old
  · obtain ⟨answer, mem, stored⟩ := List.mem_filterMap.1 new
    have attempt : command.attempt? v = some answer := Option.mem_toList.1 mem
    cases answer with
    | ok stored' =>
      cases stored
      exact isFinite_of_attempt h finite attempt
    | error refusal => cases stored

end Command

/-! ## Runs -/

namespace Service

/-- Everything that is stored has finite numbers. -/
structure IsFinite (v : Service) : Prop where
  defaults : v.catalog.HasFiniteDefaults
  values : v.catalog.HasFiniteValues
  reports : ∀ r ∈ v.archive.reports, r.IsFinite

variable {v : Service}

theorem IsFinite.run (h : v.IsFinite) (wellFormed : v.catalog.WellFormed) {command : Command}
    (finite : command.sendsFinite = true) : (command.run v).service.IsFinite :=
  ⟨Command.finiteDefaults_run wellFormed h.defaults finite,
    Command.finiteValues_run h.defaults h.values finite,
    Command.finiteReports_run h.defaults h.reports finite⟩

/-- After any number of commands that bring finite numbers, what is stored is finite if it was. -/
theorem IsFinite.after (h : v.IsFinite) (wellFormed : v.catalog.WellFormed)
    {commands : List Command} (finite : ∀ command ∈ commands, command.sendsFinite = true) :
    (v.after commands).IsFinite := by
  induction commands generalizing v with
  | nil => exact h
  | cons command rest ih =>
    obtain ⟨first, later⟩ := List.forall_mem_cons.1 finite
    have next := (Command.change_run wellFormed command).wellFormed wellFormed
    exact ih (h.run wellFormed first) next later

end Service

end PlanCompiler
