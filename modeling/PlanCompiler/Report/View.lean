import PlanCompiler.Payload.Stored
import PlanCompiler.Report.Archive
import PlanCompiler.Schema.Moment
import PlanCompiler.Strategy.Schema
import PlanCompiler.Client.Data

/-!
# Reports as clients see them

The record in which a stored report is sent. The archive keeps whatever it was handed over, so the
shape is checked when a report is shown and not when it is stored.

* `read`: the view of a payload;
* `ofStored`: the view of a stored report;
* `write`: the view as a payload.
-/

namespace PlanCompiler

open Schema

/-- A report as clients see it. -/
structure ReportView where
  id : String
  clientId : Option String
  clientData : Entries Payload
  configurations : List (Entries Payload)
  text : String
  createdAt : Moment
  deriving Repr

namespace ReportView

/-- A record with free keys and values. -/
def readFree : Payload → Checked (Entries Payload)
  | .record fields => .valid fields
  | p => .fail .notDictionary p

/-- Read a view. -/
def read (p : Payload) : Checked ReportView :=
  (readRecord p).andThen fun r =>
    ReportView.mk <$> mandatory r Key.id readText
      <*> nullable r Key.clientId readText
      <*> mandatory r Key.clientData readFree
      <*> mandatory r Key.strategyConfigurations (readList readFree)
      <*> mandatory r Key.generatedReport readText
      <*> mandatory r Key.createdAt Moment.read

/-- The view of a stored report. The creation time is shown without an offset. -/
def ofStored (r : StoredReport) : Checked ReportView :=
  (fun clientData configurations =>
      { id := r.id, clientId := r.clientId, clientData, configurations, text := r.text,
        createdAt := { reading := r.createdAt } })
    <$> (readFree r.clientData).under (.field Key.clientData.plain)
    <*> (readList readFree r.configurations).under (.field Key.strategyConfigurations.plain)

/-- The fields of a view around its free data and the time of creation. -/
def fields (v : ReportView) (clientData : Entries Payload) (configurations : List Payload)
    (createdAt : String) : Payload :=
  .record [(Key.id.wire, .text v.id), (Key.clientId.wire, .ofOption .text v.clientId),
    (Key.clientData.wire, .record clientData),
    (Key.strategyConfigurations.wire, .list configurations),
    (Key.generatedReport.wire, .text v.text), (Key.createdAt.wire, .text createdAt)]

/-- Write a view. -/
def write (mode : WriteMode) (v : ReportView) : Except WriteFault Payload :=
  match mode with
  | .asGiven =>
    .ok (v.fields v.clientData (v.configurations.map .record) v.createdAt.iso)
  | .stored => do
    let clientData ← Payload.storedFields v.clientData
    let configurations ← Payload.storedRecords v.configurations
    pure (v.fields clientData configurations v.createdAt.isoUtc)

end ReportView

end PlanCompiler
