import PlanCompiler.Report.Compilation
import PlanCompiler.Report.Request
import PlanCompiler.Schema.Model
import PlanCompiler.Service.Basic

/-!
# Operations on configurations and reports

Storing what clients decided, and compiling, storing and listing reports. A report is compiled
first, then the configurations are stored for the client, then the report itself; when the storage
fails, the client's list has already been replaced.

* `saveConfigs`: a client's list, without configurations of unknown strategies;
* `generate`: compile a report and store it;
* `saveReport`, `listReports`, `viewOf`, `exportReport`: the archive.
-/

namespace PlanCompiler.Service

open Schema

/-- Store a client's configurations in place of those stored before. -/
def saveConfigs (v : Service) (client : String) (configs : List ClientConfig) :
    Outcome (List ClientConfig) :=
  let kept := v.catalog.known configs
  let dropped := configs.length - kept.length
  { answer := .ok kept
    service := v.withCatalog (v.catalog.storeConfigs client configs)
    events := if dropped = 0 then [] else [.droppedConfigs dropped client] }

/-- The strategies of the catalog by id. -/
def find (v : Service) (id : String) : Option Strategy :=
  v.catalog.get? id

/-- Compile a report without storing it. -/
def compile (v : Service) (clientData : Payload) (configs : List ClientConfig) : Outcome String :=
  let source := StrategySource.stored v.catalog
  { answer := .ok (Report.compileFor clientData configs source)
    service := v
    events := Report.compileEvents source.find? configs }

/-- The rest of an id after its serial number. -/
def reportIdTail : String := "-0000-0000-0000-000000000000"

/-- The id of a report with the given serial number. -/
def reportId (serial : Nat) : String :=
  Catalog.serialText serial ++ reportIdTail

/-- The service after the id and the time of a report have been drawn. -/
def drawn (v : Service) : Service :=
  { v with serial := v.serial + 1, clock := v.clock.nextMinute }

/-- Store a report. Id and time are drawn unless the storage cannot be reached or was interrupted;
what stops the storage then is known only after that, and interrupts it. -/
def saveReport (v : Service) (down : Option String)
    (clientId clientData configurations text : Payload) : Outcome StoredReport :=
  match down.map StorageFault.unreachable, v.archive.checkOpen with
  | some fault, _ | none, .error fault => v.refuse (.storage fault)
  | none, .ok () =>
    let row : ReportRow :=
      { id := reportId v.serial, clientId, clientData, configurations, text, createdAt := v.clock }
    match v.archive.save row with
    | .ok (r, archive) => { answer := .ok r, service := { v.drawn with archive } }
    | .error fault =>
      { v.drawn with archive := v.archive.interruptedBy fault }.refuse (.storage fault)

/-- Store the configurations of a request for its client, if it names one. -/
def saveRequested (v : Service) (clientId : Option String) (configs : List ClientConfig) :
    Outcome Unit :=
  match clientId.filter (!·.isEmpty) with
  | some client => (v.saveConfigs client configs).map fun _ => ()
  | none => v.answer ()

/-- Compile a report and store it. The client's data is brought into its stored form first. -/
def generate (v : Service) (down : Option String) (q : ReportRequest) : Outcome StoredReport :=
  let configs := q.configurations v.find
  (v.conclude (q.clientData.write .stored) .unwritable).andThen fun clientData v =>
    (v.compile clientData configs).andThen fun text v =>
      (v.saveRequested q.clientId configs).andThen fun _ v =>
        (v.saveReport down (.ofOption .text q.clientId) clientData
          (.list (configs.map ClientConfig.write)) (.text text)).andThen fun r v =>
            { answer := .ok r, service := v, events := [.generated r.id configs.length] }

/-- The newest reports. A limit that is empty, zero or not there stands for the service's own. That
a limit is none is known before the storage is asked, unless it only is out of range. -/
def listReports (v : Service) (limit : Payload) : Except Refusal (List StoredReport) :=
  match ListLimit.read (if limit.isFilled then limit else v.listLimit), v.archive.checkOpen with
  | .error .outOfRange, .error fault => .error (.storage fault)
  | .error fault, _ => .error (.limit fault)
  | .ok _, .error fault => .error (.storage fault)
  | .ok limit, .ok () => .ok (v.archive.list limit)

/-- A stored report as a payload, as it was given or in stored form, if it can be shown. -/
def viewOf (mode : WriteMode) (r : StoredReport) : Except Refusal Payload :=
  match Model.reportView.named (ReportView.ofStored r) with
  | .ok view => (view.write mode).mapError .unwritable
  | .error rejection => .error (.invalid rejection)

/-- The exported document of a stored report. -/
def exportReport (v : Service) (id : Payload) : Except Refusal String :=
  match v.archive.select id with
  | .error fault => .error (.storage fault)
  | .ok none => .error .noReport
  | .ok (some r) => r.document.mapError .document

end PlanCompiler.Service
