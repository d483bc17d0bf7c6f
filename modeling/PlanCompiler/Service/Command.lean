import PlanCompiler.Service.Reports
import PlanCompiler.Service.Strategies

/-!
# Commands

The operations of the service as data. A command carries its payloads as they were sent; running it
reads them under their schemas first, so everything that can happen to a service is a list of
commands.

* `Command.run`: one command;
* `Service.runAll`: a list of commands, each with its outcome;
* `Service.started`: a service whose catalog holds the given strategies.
-/

namespace PlanCompiler

open Schema

/-- An operation with its arguments. -/
inductive Command
  | add (draft : Payload)
  | update (id : String) (revision : Payload)
  | delete (id : String)
  | addCustom (title : String) (content sectionKey : Payload)
  | updateCustom (id : String) (title content sectionKey : Payload)
  | removeCustom (id : String)
  | get (id : String)
  | contains (id : String)
  | list
  | listCustom
  | byCategory (key : String)
  | bySection (key : String)
  | bySubsection (key : String)
  | exportCustom
  | importDrafts (drafts : List Payload)
  | reimport
  | saveConfigs (client : String) (configs : List Payload)
  | getConfigs (client : String)
  | clients
  | seed
  | reset
  | organize (search sectionKey : Option String)
  | compile (configs : List Payload)
  | buildConfigurations (request : Payload)
  | generate (down : Option String) (request : Payload)
  | saveReport (clientId clientData configurations text : Payload)
  | getReport (id : Payload)
  | exportReport (id : Payload)
  | listReports (limit : Payload)
  | setSerial (next : Int)
  | setClock (time : String)

/-- The answer to a command. -/
inductive Answer
  | nothing
  | flag (value : Bool)
  | count (value : Nat)
  | strategy (value : Strategy)
  | maybeStrategy (value : Option Strategy)
  | strategies (values : List Strategy)
  | ids (values : List String)
  | payloads (values : List Payload)
  | configs (values : List ClientConfig)
  | groups (values : List Browse.Group)
  | text (value : String)
  | report (value : StoredReport)
  | view (value : Option Payload)
  | reports (values : List StoredReport)

/-- The ids of strategies. -/
def Answer.idsOf (strategies : List Strategy) : Answer :=
  .ids (strategies.map (·.id))

namespace Command

/-- Read payloads one after another; the first that does not fit is the rejection. -/
def readEach {α : Type} (model : Model) (read : Payload → Checked α) :
    List Payload → Except Rejection (List α)
  | [] => .ok []
  | p :: rest =>
    match model.named (read p) with
    | .error rejection => .error rejection
    | .ok a => (readEach model read rest).map (a :: ·)

/-- The configurations of a list of payloads. -/
def readConfigs : List Payload → Except Rejection (List ClientConfig) :=
  readEach .clientConfig ClientConfig.read

/-- The drafts of a list of payloads. -/
def readDrafts : List Payload → Except Rejection (List Draft) :=
  readEach .draft Draft.read

/-- The revision that changes title, content and section. -/
def customRevision (title content sectionKey : Payload) : Except Rejection Revision :=
  Model.revision.named (Revision.read (.record [(Key.title.wire, title),
    (Key.content.wire, content), (Key.sectionKey.wire, sectionKey)]))

/-- Show a stored report. -/
def showReport (r : StoredReport) (v : Service) : Outcome Answer :=
  v.conclude ((Service.viewOf .asGiven r).map fun view => .view (some view)) fun refusal => refusal

/-- Run a command. -/
def run (v : Service) : Command → Outcome Answer
  | .add draft =>
    v.checked (Model.draft.named (Draft.read draft)) fun d => (v.add d).map .strategy
  | .update id revision =>
    v.checked (Model.revision.named (Revision.read revision)) fun r =>
      (v.update id r).map .maybeStrategy
  | .delete id => (v.delete id).map .flag
  | .addCustom title content sectionKey => (v.addCustom title content sectionKey).map .strategy
  | .updateCustom id title content sectionKey =>
    (v.updateCustom id (customRevision title content sectionKey)).map .maybeStrategy
  | .removeCustom id => (v.removeCustom id).map .flag
  | .get id => v.answer (.maybeStrategy (v.catalog.get? id))
  | .contains id => v.answer (.flag (v.catalog.contains id))
  | .list => v.answer (.idsOf v.catalog.strategies)
  | .listCustom => v.answer (.idsOf v.catalog.customStrategies)
  | .byCategory key => (v.readIndex (·.byCategory) key).map .idsOf
  | .bySection key => (v.readIndex (·.bySection) key).map .idsOf
  | .bySubsection key => (v.readIndex (·.bySubsection) key).map .idsOf
  | .exportCustom => v.answer (.payloads v.exported)
  | .importDrafts drafts =>
    v.checked (readDrafts drafts) fun ds => (v.importDrafts ds).map .strategies
  | .reimport =>
    v.checked (readDrafts v.exported) fun ds => (v.importDrafts ds).map .strategies
  | .saveConfigs client configs =>
    v.checked (readConfigs configs) fun cs => (v.saveConfigs client cs).map .configs
  | .getConfigs client => v.answer (.configs (v.catalog.configsOf client))
  | .clients => v.answer (.ids (Entries.keys v.catalog.clients))
  | .seed => v.seed.map .count
  | .reset => v.reset.map fun _ => .nothing
  | .organize search sectionKey =>
    v.answer (.groups (Browse.organize search sectionKey v.catalog.strategies))
  | .compile configs => v.checked (readConfigs configs) fun cs => (v.compile .null cs).map .text
  | .buildConfigurations request =>
    v.checked (Model.reportRequest.named (ReportRequest.read request)) fun q =>
      v.answer (.configs (q.configurations v.find))
  | .generate down request =>
    v.checked (Model.reportRequest.named (ReportRequest.read request)) fun q =>
      (v.generate down q).map .report
  | .saveReport clientId clientData configurations text =>
    (v.saveReport none clientId clientData configurations text).andThen showReport
  | .getReport id =>
    match v.archive.select id with
    | .error fault => v.refuse (.storage fault)
    | .ok none => v.answer (.view none)
    | .ok (some r) => showReport r v
  | .exportReport id => v.conclude ((v.exportReport id).map .text) fun refusal => refusal
  | .listReports limit => v.conclude ((v.listReports limit).map .reports) fun refusal => refusal
  | .setSerial next =>
    { answer := .ok .nothing, service := { v with serial := Catalog.serialOf next } }
  | .setClock text =>
    match Instant.read text.toList with
    | .ok time => { answer := .ok .nothing, service := { v with clock := time } }
    | .error fault => v.refuse (.clock text fault)

end Command

namespace Service

/-- Run commands one after another; a refused one does not stop those after it. -/
def runAll (v : Service) : List Command → List (Outcome Answer)
  | [] => []
  | command :: rest =>
    let o := command.run v
    o :: runAll o.service rest

/-- The state after a list of commands. -/
def after (v : Service) (commands : List Command) : Service :=
  commands.foldl (fun v command => (command.run v).service) v

/-- A service whose catalog holds the given strategies, sent as drafts. -/
def started (v : Service) : List Payload → Except Refusal Service
  | [] => .ok v
  | p :: rest =>
    let o := Command.run v (.add p)
    match o.answer with
    | .ok _ => started o.service rest
    | .error refusal => .error refusal

end Service

end PlanCompiler
