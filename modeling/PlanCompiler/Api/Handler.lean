import PlanCompiler.Api.Route
import PlanCompiler.Json.Line
import PlanCompiler.Service.Command

/-!
# Answering requests

The service behind its API. A body that is no JSON is refused first, then a missing catalog, then a
body that does not fit its schema; only then the operation is tried. Every request has an id, its
own or the next number. A reply that cannot be encoded is a failure, and so is the list of issues of
a body when it would have to show a value that JSON cannot carry.

* `handle`: reply and state after one request;
* `handleAll`: a list of requests.
-/

namespace PlanCompiler.Api

open Schema

/-- The service, the number of the next request, and the client meant by `current`. -/
structure State where
  service : Service := {}
  nextRequest : Nat := 1
  /-- None if no list can be kept for whoever is meant. -/
  defaultClient : Option String := some "anonymous"
  deriving Repr

/-- The name that stands for the default client. -/
def currentClient : String := "current"

/-- A reply and the service after it; no reply when something unforeseen happened. -/
abbrev Handled := Option Reply × Service

/-- A reply without a change. -/
def replied (v : Service) (reply : Reply) : Handled :=
  (some reply, v)

/-- The reply to a body that does not fit its schema. -/
def rejected (v : Service) (issues : List Issue) : Handled :=
  if issues.all (·.isWritable) then replied v (Reply.invalid issues) else (none, v)

/-- The reply to an operation: what `render` makes of its answer, or a reply to its refusal. -/
def concluded {α : Type} (o : Outcome α) (render : α → Reply) : Handled :=
  match o.answer with
  | .ok a => (some (render a), o.service)
  | .error (.invalid rejection) => rejected o.service rejection.issues
  | .error (.conflict cause) => (some (Reply.detail 409 cause.message), o.service)
  | .error _ => (none, o.service)

/-- Strategies as a list. -/
def strategyList (strategies : List Strategy) : Payload :=
  .list (strategies.map Strategy.write)

/-- Configurations as a list. -/
def configList (configs : List ClientConfig) : Payload :=
  .list (configs.map ClientConfig.write)

/-- An operation on the list of a client, if lists can be kept for it. -/
def forClient (v : Service) (client? : Option String) (next : String → Handled) : Handled :=
  match client? with
  | some client => next client
  | none => (none, v)

/-- A strategy, or that there is none. -/
def strategyOr (missing : String) : Option Strategy → Reply
  | some s => .json 200 s.write
  | none => .detail 404 missing

/-- Confirmation of a deletion, or that there was nothing to delete. -/
def deletedOr (missing done : String) : Bool → Reply
  | true => .confirmation done
  | false => .detail 404 missing

/-- A group of the browsing view as a payload. -/
def writeGroup (g : Browse.Group) : Payload :=
  .record [("section", .text g.key), ("title", .text g.title), ("count", .integer g.count),
    ("direct", strategyList g.direct),
    ("subsections", .list (g.subsections.map fun entry =>
      .record [("name", .text entry.1), ("strategies", strategyList entry.2)]))]

/-- A reply whose payload has no schema: numbers that JSON cannot carry are not foreseen in it. -/
def untyped (v : Service) (value : Payload) : Handled :=
  if value.allFinite then replied v (.json 200 value) else (none, v)

/-- The payload in the body of a request, nothing when there is none. A body that is no JSON is
taken for a text. -/
def readBody (q : Request) : Except Json.Flaw (Option Payload) :=
  match q.body with
  | .absent => .ok none
  | .payload value =>
    .ok (some (if q.isJson then value else .text (String.ofList (Json.write value))))
  | .text value =>
    if value.isEmpty then .ok none
    else if q.isJson then (Json.read {} value.toList).map some
    else .ok (some (.text value))

/-- The value of the body, for an operation that needs the catalog. -/
def withBody {α : Type} (q : Request) (v : Service) (read : Payload → Checked α)
    (next : α → Handled) : Handled :=
  match readBody q with
  | .error flaw => replied v (.unread flaw)
  | .ok body =>
    if !q.conditions.hasCatalog then replied v (.detail 503 "Strategy catalog not initialised")
    else match body with
      | none => rejected v [{ fault := .missing }]
      | some p => match read p with
        | .valid a => next a
        | .invalid issues => rejected v issues

/-- An operation that needs the catalog and no body. -/
def withCatalog (q : Request) (v : Service) (next : Handled) : Handled :=
  if q.conditions.hasCatalog then next
  else replied v (.detail 503 "Strategy catalog not initialised")

/-- An operation that needs the table of reports. -/
def withReports (q : Request) (v : Service) (next : Handled) : Handled :=
  if q.conditions.databaseDown.isSome || !v.archive.hasTable then (none, v) else next

/-- Whether the service can do its work. -/
def readiness (q : Request) (v : Service) : Reply :=
  match q.conditions.databaseDown with
  | some reason => .json 503 (.record [("status", .text "not_ready"),
      ("database", .text "disconnected"), ("error", .text reason),
      ("message", .text "Database connection failed")])
  | none =>
    if v.archive.hasTable then .json 200 (.record [("status", .text "ready"),
      ("database", .text "connected"), ("tables", .text "present"),
      ("strategies", .integer v.catalog.size)])
    else .json 503 (.record [("status", .text "not_ready"), ("database", .text "connected"),
      ("tables", .text "missing"), ("missing_tables", .list [.text "reports"])])

/-- Compile and store a report; what goes wrong after the body was read is not explained. Every
request is work of its own for the storage. -/
def generated (q : Request) (v : Service) (request : ReportRequest) : Handled :=
  let o := v.generate q.conditions.databaseDown request
  match o.answer with
  | .ok r =>
    (some (.json 200 ({ report := r.text, reportId := r.id } : CompiledReport).write), o.service)
  | .error _ =>
    let v := o.service
    (some (.detail 500 "Failed to generate report"), { v with archive := v.archive.reopened })

/-- A report as `render` shows it, or that there is none. -/
def reportOr (v : Service) (id : String) (render : StoredReport → Except Refusal Reply) : Handled :=
  match v.archive.find? id with
  | some r => ((render r).toOption, v)
  | none => replied v (.detail 404 "Report not found")

/-- A report as a document to download. -/
def download (r : StoredReport) (document : String) : Reply :=
  { Reply.plain 200 document with disposition := some ("attachment; filename=" ++ r.fileName) }

/-- The newest reports, if all of them can be shown. -/
def reportList (v : Service) : Handled :=
  match v.listReports .null with
  | .error _ => (none, v)
  | .ok reports =>
    let views := reports.mapM (Service.viewOf .stored)
    ((views.map fun views => Reply.json 200 (.list views)).toOption, v)

/-- A page of the manual. It is not kept here. -/
def page : Reply :=
  { status := 200, content := .text (some pageType) "" }

/-- Answer a request for a target; `value` is the parameter of the path. -/
def answer (s : State) (q : Request) (target : Target) (value : String) : Handled :=
  let v := s.service
  let search := Entries.get? q.query "search"
  let sectionKey := Entries.get? q.query "section"
  let client? := if value = currentClient then s.defaultClient else some value
  match target with
  | .manual => replied v page
  | .health => replied v (.json 200 (.record [("status", .text "healthy")]))
  | .ready => withCatalog q v (replied v (readiness q v))
  | .listStrategies => withCatalog q v
      (replied v (.json 200 (strategyList (Browse.select search sectionKey v.catalog.strategies))))
  | .organized => withCatalog q v
      (untyped v (.record [("sections",
        .list ((Browse.organize search sectionKey v.catalog.strategies).map writeGroup))]))
  | .exportStrategies => withCatalog q v (untyped v (.list v.exported))
  | .importStrategies => withBody q v Draft.readBatch fun drafts =>
      concluded (v.importDrafts drafts) fun imported => .json 200 (strategyList imported)
  | .byCategory => withCatalog q v
      (concluded (v.readIndex (·.byCategory) value) fun found => .json 200 (strategyList found))
  | .bySection => withCatalog q v
      (concluded (v.readIndex (·.bySection) value) fun found => .json 200 (strategyList found))
  | .bySubsection => withCatalog q v
      (concluded (v.readIndex (·.bySubsection) value) fun found => .json 200 (strategyList found))
  | .getStrategy => withCatalog q v
      (replied v (strategyOr "Strategy not found" (v.catalog.get? value)))
  | .addStrategy => withBody q v Draft.read fun draft =>
      concluded (v.add draft) fun added => .json 201 added.write
  | .updateStrategy => withBody q v Revision.read fun revision =>
      concluded (v.update value revision) (strategyOr "Strategy not found")
  | .deleteStrategy => withCatalog q v
      (concluded (v.delete value)
        (deletedOr "Strategy not found" "Strategy deleted successfully"))
  | .listCustom => withCatalog q v
      (replied v (.json 200 (strategyList v.catalog.customStrategies)))
  | .addCustom => withBody q v CustomDraft.read fun c =>
      concluded (v.addCustom c.title (.text c.content) (.text c.sectionKey)) fun added =>
        .json 201 added.write
  | .updateCustom => withBody q v CustomDraft.read fun c =>
      concluded (v.updateCustom value
        (Command.customRevision (.text c.title) (.text c.content) (.text c.sectionKey)))
        (strategyOr "Custom strategy not found")
  | .deleteCustom => withCatalog q v
      (concluded (v.removeCustom value)
        (deletedOr "Custom strategy not found" "Custom strategy deleted successfully"))
  | .getConfigs => withCatalog q v (forClient v client? fun client =>
      replied v (.json 200 (configList (v.catalog.configsOf client))))
  | .saveConfigs => withBody q v (readList ClientConfig.read) fun configs =>
      forClient v client? fun client =>
        concluded (v.saveConfigs client configs) fun kept => .json 200 (configList kept)
  | .generateReport => withBody q v ReportRequest.read (generated q v)
  | .listReports => withReports q v (reportList v)
  | .getReport => withReports q v
      (reportOr v value fun r => (Service.viewOf .stored r).map fun view => .json 200 view)
  | .exportReport => withReports q v
      (reportOr v value fun r => (r.document.map (download r)).mapError .document)

/-- What a request leads to: a reply, or none when something unforeseen happened. -/
def respond (s : State) (q : Request) : Handled :=
  match dispatch q.method q.path with
  | .unknown => replied s.service (.detail 404 "Not Found")
  | .wrongMethod => replied s.service (.detail 405 "Method Not Allowed")
  | .moved => replied s.service .redirect
  | .found target value => answer s q target value

/-- The id of a request, its own or the next number, and the number after it. -/
def identify (s : State) (q : Request) : String × Nat :=
  match q.ownId with
  | some id => (id, s.nextRequest)
  | none => (numberedId s.nextRequest, s.nextRequest + 1)

/-- Answer a request. A reply that can be encoded carries the id of the request. -/
def handle (s : State) (q : Request) : Reply × State :=
  let (id, nextRequest) := identify s q
  let (reply?, service) := respond s q
  (((reply?.bind (·.encodable?)).map fun reply => { reply with requestId := some id }).getD
    Reply.internalError, { s with service, nextRequest })

/-- Answer requests one after another. -/
def handleAll (s : State) : List Request → List Reply × State
  | [] => ([], s)
  | q :: rest =>
    let (reply, s) := handle s q
    let (replies, s) := handleAll s rest
    (reply :: replies, s)

/-- The state without the table of reports. -/
def State.withoutTable (s : State) : State :=
  { s with service := { s.service with archive := s.service.archive.dropped } }

end PlanCompiler.Api
