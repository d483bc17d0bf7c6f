import PlanCompiler.Proofs.Client.History
import PlanCompiler.Proofs.Service.Generation
import PlanCompiler.Proofs.Service.Reachable

/-!
# Clients' lists over a run

Every command is at most one event in the history of the clients' lists (`Command.clientEvent?`): a
list is saved by a client, also on the way to a report, a strategy is deleted, or everything is
dropped. What clients have stored after a run follows its history, whatever else happened in
between.

* `Command.Makes.clients`: an edit that was made is its event, one case for each;
* `Command.clients_run`: what a command does to the clients' lists;
* `Service.clients_after`: the same for a run;
* `started_follows_history`: the lists of a service after a run;
* `Command.Spares`: the commands that leave a client's list alone.
-/

namespace PlanCompiler

open Schema

namespace Command

/-- A strategy is deleted if the answer to its deletion is yes. -/
def deletion? (id : String) : Except Refusal Answer → Option ClientEvent
  | .ok (.flag true) => some (.deleted id)
  | _ => none

/-- A request that names a client saves its list as soon as the data of the client is written. -/
def request? (v : Service) (q : ReportRequest) : Option ClientEvent :=
  match q.clientData.write .stored, q.clientId.filter (!·.isEmpty) with
  | .ok _, some client => some (.saved client (q.configurations v.find) v.catalog.ids)
  | _, _ => none

/-- The event that a command is in the history of the clients' lists. -/
def clientEvent? (v : Service) (command : Command) : Option ClientEvent :=
  match command with
  | .saveConfigs client configs =>
    match readConfigs configs with
    | .ok configs => some (.saved client configs v.catalog.ids)
    | .error _ => none
  | .generate _ request =>
    match ReportRequest.read request with
    | .valid q => request? v q
    | .invalid _ => none
  | .delete id | .removeCustom id => deletion? id (command.run v).answer
  | .reset => some .cleared
  | _ => none

end Command

namespace Service

/-- The history of the clients' lists over a run. -/
def history (v : Service) : List Command → List ClientEvent
  | [] => []
  | command :: rest => (command.clientEvent? v).toList ++ (command.run v).service.history rest

/-! ## One command -/

theorem clients_storeConfigs (c : Catalog) (client : String) (configs : List ClientConfig) :
    (c.storeConfigs client configs).clients =
      (ClientEvent.saved client configs c.ids).apply c.clients := by
  have known : c.known configs = configs.filter fun config => config.strategyId ∈ c.ids := by
    refine List.filter_congr fun config _ => ?_
    rw [Bool.eq_iff_iff, decide_eq_true_iff]
    exact Entries.contains_iff_mem_keys c.entries config.strategyId
  rw [Catalog.storeConfigs, known]
  rfl

theorem clients_generate (v : Service) (down : Option String) (q : ReportRequest) :
    (v.generate down q).service.catalog.clients =
      replay (Command.request? v q).toList v.catalog.clients := by
  rw [catalog_generate, Command.request?]
  cases q.clientData.write .stored with
  | error fault => rfl
  | ok data =>
    dsimp only
    rw [catalogWith]
    cases q.clientId.filter (!·.isEmpty) with
    | none => rfl
    | some client => exact clients_storeConfigs v.catalog client _

end Service

namespace Command

variable {v : Service} {command : Command} {a : Answer} {c : Catalog}

/-- What only reads or sets is not in the history. -/
theorem clientEvent?_of_quiet (v : Service)
    (quiet : (command.isRead || command.isSetting) = true) : command.clientEvent? v = none := by
  cases command with
  | saveConfigs _ _ | generate _ _ | delete _ | removeCustom _ | reset => cases quiet
  | _ => rfl

/-- An edit that was made is its event in the history. -/
theorem Makes.clients (made : Makes v command a c) (answered : (command.run v).answer = .ok a) :
    c.clients = replay (command.clientEvent? v).toList v.catalog.clients := by
  cases made with
  | add _ adds =>
    obtain ⟨_⟩ := adds
    rfl
  | update _ revises =>
    obtain ⟨_, _⟩ := revises
    rfl
  | addCustom adds =>
    obtain ⟨_, _⟩ := adds
    rfl
  | updateCustom revises =>
    obtain ⟨_, _, _, _⟩ := revises
    rfl
  | delete removes | removeCustom removes =>
    obtain ⟨_, _⟩ := removes
    rw [clientEvent?, answered]
    rfl
  | importDrafts _ imports | reimport _ imports =>
    obtain ⟨_⟩ := imports
    exact Catalog.clients_insertAll v.catalog _
  | saveConfigs read =>
    rw [clientEvent?, read]
    exact Service.clients_storeConfigs v.catalog _ _
  | seed => exact Catalog.clients_insertAll v.catalog _
  | reset => rfl

/-- An edit of which nothing was made is not in the history. -/
theorem clientEvent?_of_unmade (edit : command.isEdit = true)
    (failed : ∀ a, (command.run v).answer = .ok a → a.isMissing = true)
    (unmade : ∀ a c, ¬ Makes v command a c) : command.clientEvent? v = none := by
  cases command with
  | saveConfigs client payloads =>
    rw [clientEvent?]
    cases read : readConfigs payloads with
    | error _ => rfl
    | ok configs => exact absurd (.saveConfigs read) (unmade _ _)
  | delete id | removeCustom id =>
    rw [clientEvent?, deletion?.eq_def]
    split
    · rename_i deleted
      cases failed _ deleted
    · rfl
  | reset => exact absurd .reset (unmade _ _)
  | generate _ _ => cases edit
  | _ => rfl

/-- What a command does to the clients' lists is the one event that it is in their history, if it is
one. -/
theorem clients_run (v : Service) (command : Command) :
    (command.run v).service.catalog.clients =
      replay (command.clientEvent? v).toList v.catalog.clients := by
  cases step_run v command with
  | edit edit whole =>
    cases whole with
    | made answered _ made service =>
      rw [service]
      exact made.clients answered
    | kept failed unmade service =>
      rw [service, clientEvent?_of_unmade edit failed unmade]
      rfl
  | read reads service =>
    rw [service, clientEvent?_of_quiet v (by simp [reads]), Service.withCatalog]
    split
    · exact Catalog.clients_refreshed v.catalog
    · rfl
  | generate read service =>
    rw [clientEvent?, read, service]
    exact Service.clients_generate v _ _
  | declined read service =>
    rw [clientEvent?, read, service]
    rfl
  | saveReport service =>
    rw [service, Service.catalog_saveReport]
    rfl
  | set _ _ sets service =>
    rw [service, clientEvent?_of_quiet v (by simp [sets])]
    rfl

/-- The command neither saves a list for the client nor deletes a strategy nor drops everything. -/
def Spares (client : String) : Command → Prop
  | .saveConfigs other _ => other ≠ client
  | .generate _ request => ∀ q, ReportRequest.read request = .valid q → q.clientId ≠ some client
  | .delete _ | .removeCustom _ | .reset => False
  | _ => True

theorem Spares.saved_of_clientEvent {client : String} {command : Command}
    (spares : command.Spares client) {v : Service} {e : ClientEvent}
    (he : command.clientEvent? v = some e) :
    ∃ other configs there, other ≠ client ∧ e = .saved other configs there := by
  cases command with
  | saveConfigs other configs =>
    rw [clientEvent?] at he
    split at he
    · exact ⟨other, _, _, spares, (Option.some.inj he).symm⟩
    · cases he
  | generate down request =>
    rw [clientEvent?] at he
    split at he
    · rename_i q hq
      rw [request?] at he
      split at he
      · rename_i other _ named
        have client := (Option.filter_eq_some_iff.1 named).1
        exact ⟨other, _, _, fun same => spares q hq (same ▸ client), (Option.some.inj he).symm⟩
      · cases he
    · cases he
  | delete id | removeCustom id | reset => exact spares.elim
  | _ => cases he

/-- A command that spares a client leaves its list as it was. -/
theorem Spares.configsOf_run {client : String} {command : Command}
    (spares : command.Spares client) (v : Service) :
    (command.run v).service.catalog.configsOf client = v.catalog.configsOf client := by
  rw [Catalog.configsOf, clients_run]
  cases event : command.clientEvent? v with
  | none => rfl
  | some e =>
    obtain ⟨other, configs, there, ne, rfl⟩ := spares.saved_of_clientEvent event
    show (Entries.get? (Entries.put v.catalog.clients other _) client).getD [] = _
    rw [Entries.get?_put, if_neg ne]
    rfl

end Command

namespace Service

/-! ## Runs -/

theorem clients_after (v : Service) (commands : List Command) :
    (v.after commands).catalog.clients = replay (v.history commands) v.catalog.clients := by
  induction commands generalizing v with
  | nil => rfl
  | cons command rest ih =>
    have step : v.after (command :: rest) = (command.run v).service.after rest := rfl
    rw [step, ih, Command.clients_run, history, replay, replay, replay, List.foldl_append]

/-- A service starts without any client's list. -/
theorem clients_started {first start : Service} {initial : List Payload}
    (blank : first.catalog = {}) (hstart : started first initial = .ok start) :
    start.catalog.clients = [] := by
  refine started_induction (P := fun v => v.catalog.clients = []) (fun v draft ih => ?_) ?_ hstart
  · rw [Command.clients_run, ih]
    rfl
  · rw [blank]

/-- After any run, what a client has stored is the list that it has saved last, on its own or with a
report, less the configurations of the strategies that were not there at that moment or have been
deleted since, though they may be there again. Clients are listed in the order of their first saves.
No command changes the list of a client that it spares. -/
theorem started_follows_history {first start : Service} {initial : List Payload}
    (blank : first.catalog = {}) (hstart : started first initial = .ok start)
    (commands : List Command) :
    FollowsHistory (start.history commands) (start.after commands).catalog ∧
    ∀ (client : String) (command : Command), command.Spares client →
      (command.run (start.after commands)).service.catalog.configsOf client =
        (start.after commands).catalog.configsOf client := by
  refine ⟨followsHistory_of_replay ?_, fun client command spares => spares.configsOf_run _⟩
  rw [clients_after, clients_started blank hstart]

/-- A strategy is deleted and added again after two clients have saved a list with it. -/
def sampleSaves : List Command :=
  [.saveConfigs "first" [sampleConfig "b", sampleConfig "a", sampleConfig "b", sampleConfig "c"],
    .saveConfigs "second" [sampleConfig "b"], .delete "b",
    .add (.record [("id", .text "b"), ("title", .text "B"), ("content", .text "")]),
    .generate none (.record [("clientData", .record []), ("clientId", .text "third"),
      ("selectedStrategyIds", .list [.text "b", .text "d"])])]

/-- The strategy is back in the catalog, but not in the lists that had it before. -/
theorem started_follows_history_sample : ∃ start, started {} sampleDrafts = .ok start ∧
    (start.after sampleSaves).catalog.ids = ["a", "b"] ∧
    (start.after sampleSaves).catalog.clients =
      [("first", [⟨"a", true, []⟩]), ("second", []), ("third", [⟨"b", true, []⟩])] ∧
    FollowsHistory (start.history sampleSaves) (start.after sampleSaves).catalog ∧
    ((Command.saveConfigs "second" []).run (start.after sampleSaves)).service.catalog.configsOf
      "first" = [⟨"a", true, []⟩] := by
  have follows := @started_follows_history {} _ sampleDrafts rfl rfl sampleSaves
  refine ⟨_, rfl, by decide, by decide, follows.1, ?_⟩
  rw [follows.2 "first" (.saveConfigs "second" []) (by simp [Command.Spares])]
  decide

end Service

end PlanCompiler
