import PlanCompiler.Proofs.Entries
import PlanCompiler.Proofs.Steps
import PlanCompiler.Service.Reports

/-!
# Generating a report, step by step

A report is compiled, then the client's list is saved, then the report is stored. Only the data of
the client, which is written before all that, and the storage can stop it.

* `generate_of_unwritable`, `generate_of_written`: the operation in both cases;
* `catalog_generate`: what it does to the catalog;
* `StorageTakes`, `answer_saveReport_eq_ok_iff`: when the storage takes a report;
* `answer_generate_eq_ok_iff`, `select_of_generate`: when a report is generated, and where it is
  found.
-/

namespace PlanCompiler

open Schema

namespace Outcome

variable {α β : Type} {o : Outcome α} {a : α} {next : α → Service → Outcome β}

theorem answer_andThen (h : o.answer = .ok a) :
    (o.andThen next).answer = (next a o.service).answer := by
  rw [andThen, h]

theorem service_andThen (h : o.answer = .ok a) :
    (o.andThen next).service = (next a o.service).service := by
  rw [andThen, h]

/-- A last step that only logs. -/
theorem andThen_logging (o : Outcome α) (events : α → List Event) :
    (o.andThen fun a v => { answer := .ok a, service := v, events := events a }).answer = o.answer ∧
    (o.andThen fun a v => { answer := .ok a, service := v, events := events a }).service =
      o.service := by
  rw [andThen]
  cases o.answer <;> exact ⟨rfl, rfl⟩

end Outcome

namespace Service

variable {v : Service} {down : Option String} {q : ReportRequest} {data : Payload}

@[simp] theorem service_answer {α : Type} (v : Service) (a : α) : (v.answer a).service = v := rfl

@[simp] theorem service_compile (v : Service) (clientData : Payload) (configs : List ClientConfig) :
    (v.compile clientData configs).service = v := rfl

@[simp] theorem catalog_saveReport (v : Service) (down : Option String)
    (clientId clientData configurations text : Payload) :
    (v.saveReport down clientId clientData configurations text).service.catalog = v.catalog := by
  rw [saveReport]
  split
  · rfl
  · rfl
  · dsimp only
    split <;> rfl

/-- The catalog once the list of a request is saved for the client that the request names. -/
def catalogWith (v : Service) (q : ReportRequest) : Catalog :=
  match q.clientId.filter (!·.isEmpty) with
  | some client => v.catalog.storeConfigs client (q.configurations v.find)
  | none => v.catalog

@[simp] theorem entries_catalogWith (v : Service) (q : ReportRequest) :
    (v.catalogWith q).entries = v.catalog.entries := by
  rw [catalogWith]
  split <;> rfl

/-- Saving for one client does not change what another one has stored. -/
theorem get?_clients_catalogWith {other : String} (ne : q.clientId ≠ some other) :
    Entries.get? (v.catalogWith q).clients other = Entries.get? v.catalog.clients other := by
  rw [catalogWith]
  split
  · rename_i client named
    have own : q.clientId = some client := (Option.filter_eq_some_iff.1 named).1
    have apart : client ≠ other := fun same => ne (own.trans (congrArg some same))
    rw [Catalog.storeConfigs, Entries.get?_put, if_neg apart]
  · rfl

theorem answer_saveRequested (v : Service) (q : ReportRequest) :
    (v.saveRequested q.clientId (q.configurations v.find)).answer = .ok () := by
  rw [saveRequested]
  split <;> rfl

theorem service_saveRequested (v : Service) (q : ReportRequest) :
    (v.saveRequested q.clientId (q.configurations v.find)).service =
      v.withCatalog (v.catalogWith q) := by
  rw [saveRequested, catalogWith]
  cases q.clientId.filter (!·.isEmpty) <;> rfl

/-- The text of the report that is requested. -/
def textOf (v : Service) (q : ReportRequest) : String :=
  Report.compileFor .null (q.configurations v.find) (.stored v.catalog)

/-- The last step: the report of a request is stored. -/
def store (v : Service) (down : Option String) (q : ReportRequest) (data : Payload) :
    Outcome StoredReport :=
  (v.withCatalog (v.catalogWith q)).saveReport down (.ofOption .text q.clientId) data
    (.list ((q.configurations v.find).map ClientConfig.write)) (.text (v.textOf q))

theorem generate_of_unwritable {fault : WriteFault}
    (h : q.clientData.write .stored = .error fault) :
    v.generate down q = v.refuse (.unwritable fault) := by
  rw [generate, h]
  rfl

theorem generate_of_written (h : q.clientData.write .stored = .ok data) :
    (v.generate down q).answer = (v.store down q data).answer ∧
      (v.generate down q).service = (v.store down q data).service := by
  have written : v.conclude (q.clientData.write .stored) .unwritable = v.answer data := by
    rw [h]
    rfl
  have answered := answer_saveRequested v q
  have logged := Outcome.andThen_logging (v.store down q data) fun r =>
    [.generated r.id (q.configurations v.find).length]
  constructor
  · rw [generate, written, Outcome.answer_andThen rfl, Outcome.answer_andThen rfl, service_compile,
      service_answer, Outcome.answer_andThen answered, service_saveRequested]
    exact logged.1
  · rw [generate, written, Outcome.service_andThen rfl, Outcome.service_andThen rfl,
      service_compile, service_answer, Outcome.service_andThen answered, service_saveRequested]
    exact logged.2

/-- The client's list is saved as soon as the data of the client is written, whether or not the
report is stored. -/
theorem catalog_generate (v : Service) (down : Option String) (q : ReportRequest) :
    (v.generate down q).service.catalog =
      match q.clientData.write .stored with
      | .ok _ => v.catalogWith q
      | .error _ => v.catalog := by
  cases h : q.clientData.write .stored with
  | error fault =>
    rw [generate_of_unwritable h]
    rfl
  | ok data =>
    rw [(generate_of_written h).2, store, catalog_saveReport]
    rfl

end Service

/-! ## Storing -/

namespace Archive

/-- A report with a text and a client's id is kept as it is. -/
theorem kept_of_texts (id : String) (clientId : Option String) (clientData configurations : Payload)
    (text : String) (createdAt : Instant) :
    kept
        { id, clientId := .ofOption .text clientId, clientData, configurations, text := .text text
          createdAt } =
      .ok { id, clientId, clientData, configurations, text, createdAt } := by
  cases clientId <;> rfl

/-- What stops a kept report from being stored: that there is no table for it, that one of its texts
is broken, or that its id is taken. -/
theorem save_of_kept {a : Archive} {row : ReportRow} {r : StoredReport} (h : kept row = .ok r) :
    a.save row =
      if (!a.hasTable) = true then .error .tableMissing
      else if (!r.isWhole) = true then .error .brokenText
      else if (a.reports.any fun other => other.id = r.id) = true then
        .error (.refused (.notUnique "id") (.insertion row))
      else .ok (r, { a with reports := a.reports ++ [r] }) := by
  rw [save, h]
  rfl

/-- A kept report is stored as the last one if there is a table for it, its texts are whole and its
id is new. -/
theorem save_eq_ok_iff {a a' : Archive} {row : ReportRow} {r r' : StoredReport}
    (h : kept row = .ok r) : a.save row = .ok (r', a') ↔
      (a.hasTable = true ∧ r.isWhole = true ∧ ∀ other ∈ a.reports, other.id ≠ r.id) ∧
        r = r' ∧ { a with reports := a.reports ++ [r] } = a' := by
  rw [save_of_kept h, Except.check_eq_ok_iff, Except.check_eq_ok_iff,
    Except.check_eq_ok_iff]
  simp [and_assoc]

/-- The last report is found under its id if no other one has it. -/
theorem select_of_reports {a : Archive} {reports : List StoredReport} {r : StoredReport}
    (opened : a.interruption = none) (free : ∀ other ∈ reports, other.id ≠ r.id) :
    { a with reports := reports ++ [r] }.select (.text r.id) = .ok (some r) := by
  have none : reports.find? (fun other => other.id = r.id) = none := by
    simpa using free
  have found : (reports ++ [r]).find? (fun other => other.id = r.id) = some r := by
    rw [List.find?_append, none]
    simp
  rw [select, checkOpen, opened]
  exact congrArg Except.ok found

end Archive

namespace Service

variable {v : Service} {down clientId : Option String} {data configurations : Payload}
  {text : String} {r : StoredReport}

/-- The storage takes a report with the given text for the given client. -/
structure StorageTakes (v : Service) (down clientId : Option String) (text : String) : Prop where
  reachable : down = none
  opened : v.archive.interruption = none
  hasTable : v.archive.hasTable = true
  whole : Text.isWhole text.toList = true ∧ ∀ id ∈ clientId, Text.isWhole id.toList = true
  /-- The id that the report gets is new. -/
  free : ∀ other ∈ v.archive.reports, other.id ≠ reportId v.serial

/-- The report that is stored. -/
def reportFor (v : Service) (clientId : Option String) (data configurations : Payload)
    (text : String) : StoredReport :=
  { id := reportId v.serial, clientId, clientData := data, configurations, text
    createdAt := v.clock }

theorem isWhole_reportFor : (v.reportFor clientId data configurations text).isWhole = true ↔
    Text.isWhole text.toList = true ∧ ∀ id ∈ clientId, Text.isWhole id.toList = true := by
  cases clientId <;> simp [StoredReport.isWhole, reportFor]

/-- A report that the storage takes goes to the end of the archive. -/
theorem saveReport_of_takes (takes : v.StorageTakes down clientId text) :
    v.saveReport down (.ofOption .text clientId) data configurations (.text text) =
      { answer := .ok (v.reportFor clientId data configurations text)
        service :=
          { v.drawn with archive := { v.archive with
              reports := v.archive.reports ++
                [v.reportFor clientId data configurations text] } } } := by
  have kept := Archive.kept_of_texts (reportId v.serial) clientId data configurations text v.clock
  have saved := (Archive.save_eq_ok_iff kept).2
    ⟨⟨takes.hasTable, isWhole_reportFor.2 takes.whole, takes.free⟩, rfl, rfl⟩
  rw [saveReport, takes.reachable, Archive.checkOpen, takes.opened]
  dsimp only [Option.map_none]
  rw [saved]
  rfl

theorem takes_of_saveReport
    (h : (v.saveReport down (.ofOption .text clientId) data configurations (.text text)).answer =
      .ok r) : v.StorageTakes down clientId text := by
  have kept := Archive.kept_of_texts (reportId v.serial) clientId data configurations text v.clock
  rw [saveReport] at h
  cases reachable : down with
  | some reason =>
    rw [reachable] at h
    cases h
  | none =>
    cases opened : v.archive.interruption with
    | some first =>
      rw [reachable, Archive.checkOpen, opened] at h
      cases h
    | none =>
      rw [reachable, Archive.checkOpen, opened] at h
      dsimp only [Option.map_none] at h
      split at h
      · rename_i saved
        obtain ⟨⟨hasTable, whole, free⟩, -, -⟩ := (Archive.save_eq_ok_iff kept).1 saved
        exact ⟨rfl, opened, hasTable, isWhole_reportFor.1 whole, free⟩
      · cases h

/-- A report is stored exactly if the storage takes it. -/
theorem answer_saveReport_eq_ok_iff :
    (v.saveReport down (.ofOption .text clientId) data configurations (.text text)).answer = .ok r ↔
      v.StorageTakes down clientId text ∧ v.reportFor clientId data configurations text = r := by
  refine ⟨fun h => ?_, fun ⟨takes, same⟩ => ?_⟩
  · have takes := takes_of_saveReport h
    rw [saveReport_of_takes takes] at h
    exact ⟨takes, Except.ok.inj h⟩
  · rw [saveReport_of_takes takes, same]

/-- A report that was stored is found under its id from then on. -/
theorem select_of_saveReport (takes : v.StorageTakes down clientId text) :
    (v.saveReport down (.ofOption .text clientId) data configurations (.text
      text)).service.archive.select (.text (reportId v.serial)) =
      .ok (some (v.reportFor clientId data configurations text)) := by
  rw [saveReport_of_takes takes]
  exact Archive.select_of_reports takes.opened takes.free

/-! ## The whole operation -/

variable {q : ReportRequest}

/-- The report that is requested, with the client's data as they are stored. -/
def reportOf (v : Service) (q : ReportRequest) (data : Payload) : StoredReport :=
  v.reportFor q.clientId data (.list ((q.configurations v.find).map ClientConfig.write))
    (v.textOf q)

/-- The storage does not ask for the catalog. -/
theorem storageTakes_withCatalog {c : Catalog} :
    (v.withCatalog c).StorageTakes down clientId text ↔ v.StorageTakes down clientId text :=
  ⟨fun h => ⟨h.reachable, h.opened, h.hasTable, h.whole, h.free⟩,
    fun h => ⟨h.reachable, h.opened, h.hasTable, h.whole, h.free⟩⟩

/-- A report is generated exactly if the client's data can be stored and the storage takes it. -/
theorem answer_generate_eq_ok_iff : (v.generate down q).answer = .ok r ↔
    ∃ data, q.clientData.write .stored = .ok data ∧
      v.StorageTakes down q.clientId (v.textOf q) ∧ v.reportOf q data = r := by
  cases written : q.clientData.write .stored with
  | error fault =>
    rw [generate_of_unwritable written]
    exact ⟨nofun, fun ⟨_, data, _⟩ => nomatch data⟩
  | ok data =>
    rw [(generate_of_written written).1, store, answer_saveReport_eq_ok_iff,
      storageTakes_withCatalog]
    exact ⟨fun h => ⟨data, rfl, h⟩, fun ⟨_, same, h⟩ => Except.ok.inj same ▸ h⟩

/-- A report that was generated is found under its id from then on. -/
theorem select_of_generate (h : (v.generate down q).answer = .ok r) :
    (v.generate down q).service.archive.select (.text r.id) = .ok (some r) := by
  obtain ⟨data, written, takes, rfl⟩ := answer_generate_eq_ok_iff.1 h
  rw [(generate_of_written written).2]
  exact select_of_saveReport (storageTakes_withCatalog.2 takes)

end Service

end PlanCompiler
