import PlanCompiler.Proofs.Service.ClientLists
import PlanCompiler.Proofs.Service.Replay
import PlanCompiler.Proofs.Service.ReportLog

/-!
# What clients call

Clients save lists, generate reports and read. None of that changes a strategy, and what it does is
told by the strategies that are there, but for the id and the time that are drawn for a report.

* `Command.BelongsTo`: the commands that a client may call;
* `Keeps`, `Draws`, `Catalog.served`: what one call leaves alone, draws and changes;
* `clientEvent?_congr`, `answer_generate_congr`: what it depends on;
* `HasFreshIds`: the ids that calls will draw are new.
-/

namespace PlanCompiler

open Schema

namespace Command

/-- The commands that a client may call: it reads, saves its own list, or generates a report under
its own name or under none. -/
inductive BelongsTo (client : String) : Command → Prop
  | read {command : Command} (reads : command.isRead = true) : BelongsTo client command
  | save (configs : List Payload) : BelongsTo client (.saveConfigs client configs)
  | generate (down : Option String) (request : Payload)
    (named : ∀ q, ReportRequest.read request = .valid q →
      ∀ name ∈ q.clientId, name = "" ∨ name = client) :
    BelongsTo client (.generate down request)

end Command

/-- The catalog with other lists, refreshed if an index was read. -/
def Catalog.served (c : Catalog) (refreshing : Bool) (lists : Entries (List ClientConfig)) :
    Catalog :=
  { if refreshing then c.refreshed else c with clients := lists }

theorem Catalog.served_served (c : Catalog) (first later : Bool)
    (lists lists' : Entries (List ClientConfig)) :
    (c.served first lists).served later lists' = c.served (first || later) lists' := by
  obtain ⟨_, _, _, freshness⟩ := c
  cases freshness <;> cases first <;> cases later <;> rfl

/-- The report without what is drawn for it. -/
def StoredReport.anonymous (r : StoredReport) : StoredReport :=
  { r with id := "", createdAt := Instant.epoch }

/-- The answer without what is drawn for a report. -/
def Answer.anonymous : Answer → Answer
  | .report r => .report r.anonymous
  | answer => answer

namespace Service

/-! ## One call -/

/-- What calls leave alone. -/
structure Keeps (v w : Service) : Prop where
  entries : w.catalog.entries = v.catalog.entries
  hasTable : w.archive.hasTable = v.archive.hasTable
  listLimit : w.listLimit = v.listLimit

/-- Nothing was drawn, or one id, and no report was stored under another one. -/
def Draws (v w : Service) : Prop :=
  (w.serial = v.serial ∧ w.archive.reports = v.archive.reports) ∨
    (w.serial = v.serial + 1 ∧
      ∀ r ∈ w.archive.reports, r ∈ v.archive.reports ∨ r.id = reportId v.serial)

variable {v w : Service} {client : String} {command : Command} {q : ReportRequest}
  {down clientId : Option String} {data configurations : Payload} {text : String}

theorem Keeps.refl (v : Service) : v.Keeps v := ⟨rfl, rfl, rfl⟩

theorem Keeps.trans {u : Service} (first : u.Keeps v) (later : v.Keeps w) : u.Keeps w :=
  ⟨later.entries.trans first.entries, later.hasTable.trans first.hasTable,
    later.listLimit.trans first.listLimit⟩

theorem keeps_renewed (v : Service) : v.Keeps v.renewed := ⟨rfl, rfl, rfl⟩

theorem draws_refl (v : Service) : v.Draws v := .inl ⟨rfl, rfl⟩

theorem keeps_saveReport (v : Service) (down : Option String)
    (clientId clientData configurations text : Payload) :
    v.Keeps (v.saveReport down clientId clientData configurations text).service := by
  rw [saveReport]
  split
  · exact .refl v
  · exact .refl v
  · dsimp only
    split
    · rename_i saved
      rw [(Archive.save_appends saved).1]
      exact ⟨rfl, rfl, rfl⟩
    · exact ⟨rfl, rfl, rfl⟩

theorem draws_saveReport (v : Service) (down clientId : Option String)
    (data configurations : Payload) (text : String) :
    v.Draws (v.saveReport down (.ofOption .text clientId) data configurations
      (.text text)).service := by
  have kept := Archive.kept_of_texts (reportId v.serial) clientId data configurations text v.clock
  rw [saveReport]
  split
  · exact draws_refl v
  · exact draws_refl v
  · dsimp only
    split
    · rename_i saved
      obtain ⟨-, rfl, rfl⟩ := (Archive.save_eq_ok_iff kept).1 saved
      refine .inr ⟨rfl, fun r there => ?_⟩
      exact (List.mem_append.1 there).imp_right fun new => by rw [List.mem_singleton.1 new]
    · exact .inr ⟨rfl, fun r there => .inl there⟩

/-- A request for a report, of which the storage sees only the last step. -/
theorem keeps_generate (v : Service) (down : Option String) (q : ReportRequest) :
    v.Keeps (v.generate down q).service ∧ v.Draws (v.generate down q).service := by
  cases written : q.clientData.write .stored with
  | error fault =>
    rw [generate_of_unwritable written]
    exact ⟨.refl v, draws_refl v⟩
  | ok data =>
    have entries : v.Keeps (v.withCatalog (v.catalogWith q)) :=
      ⟨entries_catalogWith v q, rfl, rfl⟩
    rw [(generate_of_written written).2, store]
    exact ⟨entries.trans (keeps_saveReport _ _ _ _ _ _), draws_saveReport _ _ _ _ _ _⟩

end Service

namespace Command

open Service

variable {v w : Service} {client : String} {command : Command}

/-- Apart from the lists, a call changes nothing of the catalog but that it may refresh it. -/
theorem catalog_run_of_belongs (own : command.BelongsTo client) (v : Service) :
    (command.run v).service.catalog =
      v.catalog.served command.readsIndex (command.run v).service.catalog.clients := by
  cases own with
  | read reads =>
    rw [service_run_of_isRead reads]
    rfl
  | save configs =>
    rw [run]
    cases readConfigs configs <;> rfl
  | generate down request named =>
    rw [run]
    cases Model.reportRequest.named (ReportRequest.read request) with
    | error rejection => rfl
    | ok q =>
      have stored : ((v.generate down q).map Answer.report).service.catalog =
          v.catalog.served false (v.generate down q).service.catalog.clients := by
        show (v.generate down q).service.catalog = _
        rw [catalog_generate]
        split
        · rw [catalogWith]
          split <;> rfl
        · rfl
      exact stored

theorem keeps_run (own : command.BelongsTo client) (v : Service) :
    v.Keeps (command.run v).service ∧ v.Draws (command.run v).service := by
  cases own with
  | read reads =>
    rw [service_run_of_isRead reads]
    refine ⟨⟨?_, rfl, rfl⟩, .inl ⟨rfl, rfl⟩⟩
    show (if command.readsIndex then v.catalog.refreshed else v.catalog).entries = _
    split
    · exact Catalog.entries_refreshed v.catalog
    · rfl
  | save configs =>
    rw [run]
    cases readConfigs configs with
    | ok configs => exact ⟨⟨rfl, rfl, rfl⟩, .inl ⟨rfl, rfl⟩⟩
    | error rejection => exact ⟨.refl v, draws_refl v⟩
  | generate down request named =>
    rw [run]
    cases Model.reportRequest.named (ReportRequest.read request) with
    | ok q => exact keeps_generate v down q
    | error rejection => exact ⟨.refl v, draws_refl v⟩

end Command

/-! ## What one call depends on -/

namespace Service

variable {v w : Service} {client : String} {command : Command} {q : ReportRequest}
  {down clientId : Option String} {request data configurations : Payload} {text : String}

theorem find_congr (same : w.catalog.entries = v.catalog.entries) : w.find = v.find := by
  funext id
  rw [find, find, Catalog.get?, Catalog.get?, same]

theorem textOf_congr (same : w.catalog.entries = v.catalog.entries) (q : ReportRequest) :
    w.textOf q = v.textOf q := by
  rw [textOf, textOf, find_congr same]
  exact Report.compileFor_stored_congr same _ _

theorem anonymous_reportFor (v : Service) (clientId : Option String)
    (data configurations : Payload) (text : String) :
    (v.reportFor clientId data configurations text).anonymous =
      { id := "", clientId, clientData := data, configurations, text
        createdAt := Instant.epoch } :=
  rfl

theorem reportOf_congr (same : w.catalog.entries = v.catalog.entries) (q : ReportRequest)
    (data : Payload) : (w.reportOf q data).anonymous = (v.reportOf q data).anonymous := by
  rw [reportOf, reportOf, find_congr same, textOf_congr same, anonymous_reportFor,
    anonymous_reportFor]

/-- The event that a call is in the history of the lists is told by the strategies. -/
theorem clientEvent?_congr (same : w.catalog.entries = v.catalog.entries)
    (own : command.BelongsTo client) : command.clientEvent? w = command.clientEvent? v := by
  have ids : w.catalog.ids = v.catalog.ids := congrArg Entries.keys same
  cases own with
  | read reads =>
    have quiet : (command.isRead || command.isSetting) = true := by simp [reads]
    rw [Command.clientEvent?_of_quiet w quiet, Command.clientEvent?_of_quiet v quiet]
  | save configs => rw [Command.clientEvent?, Command.clientEvent?, ids]
  | generate down request named =>
    simp only [Command.clientEvent?, Command.request?, find_congr same, ids]

/-- A call is an event of the client who calls. -/
theorem client_of_clientEvent {e : ClientEvent} (own : command.BelongsTo client)
    (event : command.clientEvent? v = some e) :
    ∃ configs there, e = .saved client configs there := by
  cases own with
  | read reads =>
    rw [Command.clientEvent?_of_quiet v (by simp [reads])] at event
    cases event
  | save configs =>
    rw [Command.clientEvent?] at event
    split at event
    · exact ⟨_, _, (Option.some.inj event).symm⟩
    · cases event
  | generate down request named =>
    rw [Command.clientEvent?] at event
    split at event
    · rename_i q accepted
      rw [Command.request?] at event
      split at event
      · rename_i name _ filled
        obtain ⟨given, notEmpty⟩ := Option.filter_eq_some_iff.1 filled
        rcases named q accepted name given with rfl | rfl
        · cases notEmpty
        · exact ⟨_, _, (Option.some.inj event).symm⟩
      · cases event
    · cases event

/-- What the storage answers to a report for which a new id was drawn. -/
def storing (down : Option String) (hasTable : Bool) (r : StoredReport) :
    Except Refusal StoredReport :=
  match down with
  | some reason => .error (.storage (.unreachable reason))
  | none =>
    if !hasTable then .error (.storage .tableMissing)
    else if !r.isWhole then .error (.storage .brokenText)
    else .ok r

theorem isWhole_anonymous (r : StoredReport) : r.anonymous.isWhole = r.isWhole := rfl

theorem answer_saveReport_of_free (opened : v.archive.interruption = none)
    (free : ∀ other ∈ v.archive.reports, other.id ≠ reportId v.serial) :
    (v.saveReport down (.ofOption .text clientId) data configurations (.text text)).answer.map
        StoredReport.anonymous =
      storing down v.archive.hasTable
        (v.reportFor clientId data configurations text).anonymous := by
  have kept := Archive.kept_of_texts (reportId v.serial) clientId data configurations text v.clock
  have new : (v.archive.reports.any fun other => other.id = reportId v.serial) = false := by
    simpa using free
  have saved := Archive.save_of_kept (a := v.archive) kept
  rw [saveReport, Archive.checkOpen, opened]
  cases down with
  | some reason => rfl
  | none =>
    dsimp only [Option.map_none]
    rw [saved, new, storing, isWhole_anonymous, reportFor]
    cases v.archive.hasTable with
    | false => rfl
    | true =>
      generalize whole : StoredReport.isWhole _ = isWhole
      cases isWhole <;> rfl

theorem answer_generate_of_free (opened : v.archive.interruption = none)
    (free : ∀ other ∈ v.archive.reports, other.id ≠ reportId v.serial) :
    (v.generate down q).answer.map StoredReport.anonymous =
      match q.clientData.write .stored with
      | .ok data => storing down v.archive.hasTable (v.reportOf q data).anonymous
      | .error fault => .error (.unwritable fault) := by
  cases written : q.clientData.write .stored with
  | error fault =>
    rw [generate_of_unwritable written]
    rfl
  | ok data =>
    rw [(generate_of_written written).1, store]
    exact answer_saveReport_of_free (v := v.withCatalog (v.catalogWith q)) opened free

/-- A report is generated alike in states with the same strategies. -/
theorem answer_generate_congr (keeps : v.Keeps w)
    (free : ∀ other ∈ v.archive.reports, other.id ≠ reportId v.serial)
    (free' : ∀ other ∈ w.archive.reports, other.id ≠ reportId w.serial) :
    (w.renewed.generate down q).answer.map StoredReport.anonymous =
      (v.renewed.generate down q).answer.map StoredReport.anonymous := by
  have entries : w.renewed.catalog.entries = v.renewed.catalog.entries := keeps.entries
  have alone := @answer_generate_of_free v.renewed q down rfl free
  have later := @answer_generate_of_free w.renewed q down rfl free'
  rw [alone, later]
  cases q.clientData.write .stored with
  | error fault => rfl
  | ok data =>
    dsimp only
    rw [reportOf_congr entries]
    show storing down w.archive.hasTable _ = storing down v.archive.hasTable _
    rw [keeps.hasTable]

/-- A generated report is the one that is generated from the strategies alone. -/
theorem report_of_generate {r : StoredReport} (same : w.catalog.entries = v.catalog.entries)
    (answered : (Command.run w (.generate down request)).answer = .ok (.report r)) :
    ∃ q, ReportRequest.read request = .valid q ∧ r.text = v.textOf q ∧
      r.configurations = .list ((q.configurations v.find).map ClientConfig.write) := by
  rw [Command.run] at answered
  cases accepted : Model.reportRequest.named (ReportRequest.read request) with
  | error rejection =>
    rw [accepted] at answered
    cases answered
  | ok q =>
    rw [accepted, checked_ok] at answered
    have mapped : (w.generate down q).answer.map Answer.report = .ok (.report r) := answered
    have generated : (w.generate down q).answer = .ok r := by
      cases answer : (w.generate down q).answer with
      | error refusal =>
        rw [answer] at mapped
        cases mapped
      | ok r' =>
        rw [answer] at mapped
        cases mapped
        rfl
    obtain ⟨data, -, -, rfl⟩ := answer_generate_eq_ok_iff.1 generated
    refine ⟨q, Model.named_eq_ok_iff.1 accepted, textOf_congr same q, ?_⟩
    rw [← find_congr same]
    rfl

/-! ## New ids -/

/-- The next ids are new, also beside each other. -/
def HasFreshIds (v : Service) (count : Nat) : Prop :=
  ∀ k < count, reportId (v.serial + k) ∉
    v.archive.reports.map (·.id) ++ (List.range k).map fun j => reportId (v.serial + j)

instance (v : Service) (count : Nat) : Decidable (v.HasFreshIds count) :=
  inferInstanceAs (Decidable (∀ k < count, _))

theorem HasFreshIds.mono {m n : Nat} (h : v.HasFreshIds n) (le : m ≤ n) : v.HasFreshIds m :=
  fun k lt => h k (Nat.lt_of_lt_of_le lt le)

theorem HasFreshIds.free {n : Nat} (h : v.HasFreshIds n) (pos : 0 < n) :
    ∀ other ∈ v.archive.reports, other.id ≠ reportId v.serial := by
  intro other there taken
  exact h 0 pos (List.mem_append_left _ (List.mem_map.2 ⟨other, there, taken⟩))

/-- A call leaves new ids, one fewer at most. -/
theorem HasFreshIds.of_draws {n : Nat} (h : v.HasFreshIds (n + 1)) (draws : v.Draws w) :
    w.HasFreshIds n := by
  rcases draws with ⟨serial, reports⟩ | ⟨serial, reports⟩
  · intro k lt
    rw [serial, reports]
    exact h k (Nat.lt_succ_of_lt lt)
  · intro k lt taken
    refine h (k + 1) (Nat.succ_lt_succ lt) ?_
    have shift (j : Nat) : w.serial + j = v.serial + (j + 1) := by omega
    rw [List.mem_append, List.mem_map, List.mem_map] at taken ⊢
    rw [← shift]
    rcases taken with ⟨r, there, same⟩ | ⟨j, earlier, same⟩
    · rcases reports r there with old | new
      · exact .inl ⟨r, old, same⟩
      · exact .inr ⟨0, List.mem_range.2 (Nat.succ_pos k), new.symm.trans same⟩
    · refine .inr ⟨j + 1, List.mem_range.2 (Nat.succ_lt_succ (List.mem_range.1 earlier)), ?_⟩
      rw [← shift]
      exact same

/-! ## Alone and later -/

/-- What an attempt to store a report is answered in new work, but for what is drawn. -/
def attemptAlone? (v : Service) (command : Command) : Option (Except Refusal StoredReport) :=
  (command.attempt? v.renewed).map (·.map StoredReport.anonymous)

theorem attemptAlone?_congr (own : command.BelongsTo client) (keeps : v.Keeps w)
    (fresh : v.HasFreshIds 1) (fresh' : w.HasFreshIds 1) :
    w.attemptAlone? command = v.attemptAlone? command := by
  cases own with
  | read reads =>
    cases command with
    | generate _ _ | saveReport _ _ _ _ => cases reads
    | _ => rfl
  | save configs => rfl
  | generate down request named =>
    rw [attemptAlone?, attemptAlone?, Command.attempt?, Command.attempt?]
    cases ReportRequest.read request with
    | invalid issues => rfl
    | valid q =>
      have free := fresh.free Nat.one_pos
      have free' := fresh'.free Nat.one_pos
      exact congrArg some (answer_generate_congr keeps free free')

theorem answer_run_generate_congr (keeps : v.Keeps w) (fresh : v.HasFreshIds 1)
    (fresh' : w.HasFreshIds 1) :
    (Command.run w.renewed (.generate down request)).answer.map Answer.anonymous =
      (Command.run v.renewed (.generate down request)).answer.map Answer.anonymous := by
  have shown (o : Outcome StoredReport) : (o.map Answer.report).answer.map Answer.anonymous =
      (o.answer.map StoredReport.anonymous).map Answer.report := by
    obtain ⟨answer, _, _⟩ := o
    cases answer <;> rfl
  rw [Command.run, Command.run]
  cases Model.reportRequest.named (ReportRequest.read request) with
  | error rejection =>
    rw [checked_error, checked_error]
    rfl
  | ok q =>
    rw [checked_ok, checked_ok, shown, shown,
      answer_generate_congr keeps (fresh.free Nat.one_pos) (fresh'.free Nat.one_pos)]

end Service

end PlanCompiler
