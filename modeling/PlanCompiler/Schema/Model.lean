import PlanCompiler.Report.Request
import PlanCompiler.Report.View

/-!
# The schemas by name

Every schema of the library, what it accepts, and the normal form in which it writes an accepted
payload: all fields under their wire spelling, numbers and truth values converted.
-/

namespace PlanCompiler.Schema

/-- The schemas. -/
inductive Model
  | conditionalText
  | inputField
  | draft
  | strategy
  | revision
  | customDraft
  | draftBatch
  | clientConfig
  | clientData
  | reportRequest
  | compiledReport
  | reportView
  deriving DecidableEq, Repr

namespace Model

/-- The schemas under the names that rejections carry. -/
def table : List (String × Model) :=
  [("ConditionalText", .conditionalText), ("InputFieldSpec", .inputField),
    ("StrategyCreate", .draft), ("Strategy", .strategy), ("StrategyUpdate", .revision),
    ("CustomStrategyWrite", .customDraft), ("StrategyImportRequest", .draftBatch),
    ("ClientStrategyConfig", .clientConfig), ("ClientData", .clientData),
    ("ReportGenerateRequest", .reportRequest), ("ReportGenerateResponse", .compiledReport),
    ("ReportResponse", .reportView)]

/-- The name that rejections carry. -/
def name : Model → String
  | .conditionalText => "ConditionalText"
  | .inputField => "InputFieldSpec"
  | .draft => "StrategyCreate"
  | .strategy => "Strategy"
  | .revision => "StrategyUpdate"
  | .customDraft => "CustomStrategyWrite"
  | .draftBatch => "StrategyImportRequest"
  | .clientConfig => "ClientStrategyConfig"
  | .clientData => "ClientData"
  | .reportRequest => "ReportGenerateRequest"
  | .compiledReport => "ReportGenerateResponse"
  | .reportView => "ReportResponse"

/-- The schema of a name. -/
def ofName? (name : String) : Option Model :=
  Entries.get? table name

/-- The normal form of a payload that the schema accepts, unless it cannot be written. -/
def normalize (mode : WriteMode) : Model → Payload → Checked (Except WriteFault Payload)
  | .conditionalText, p => (ConditionalText.read p).map fun c => .ok c.write
  | .inputField, p => (InputField.read p).map fun f => .ok f.write
  | .draft, p => (Draft.read p).map fun d => .ok d.write
  | .strategy, p => (Strategy.read p).map fun s => .ok s.write
  | .revision, p => (Revision.read p).map fun r => .ok r.write
  | .customDraft, p => (CustomDraft.read p).map fun c => .ok c.write
  | .draftBatch, p => (Draft.readBatch p).map fun ds => .ok (Draft.writeBatch ds)
  | .clientConfig, p => (ClientConfig.read p).map fun c => .ok c.write
  | .clientData, p => (ClientData.read p).map (·.write mode)
  | .reportRequest, p => (ReportRequest.read p).map (·.write mode)
  | .compiledReport, p => (CompiledReport.read p).map fun c => .ok c.write
  | .reportView, p => (ReportView.read p).map (·.write mode)

/-- The normal form of a payload as given, restricted to the fields that the payload gave. -/
def normalizeGiven (model : Model) (p : Payload) : Checked (Except WriteFault Payload) :=
  (model.normalize .asGiven p).map fun written => written.map (onlyGiven Key.wire p)

/-- A rejection under the name of the schema, or the value. -/
def named {α : Type} (model : Model) (x : Checked α) : Except Rejection α :=
  x.named model.name

end Model

end PlanCompiler.Schema
