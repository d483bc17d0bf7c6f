import PlanCompiler.Payload.Entered
import PlanCompiler.Report.Limit
import PlanCompiler.Report.Statement
import PlanCompiler.Schema.Record

/-!
# The report archive

Compiled reports, kept as they were compiled. A stored report is never changed; it can be looked up
by its id, listed with the newest first, and exported as a text document. The data of the client and
the configurations are kept as they were handed over, whatever their shape.

* `Archive.save`: one more report, unless the storage fails;
* `Archive.select`: the report with an id;
* `Archive.newest`: the reports by time of creation;
* `StoredReport.document`: the exported text.
-/

namespace PlanCompiler

open Schema

/-- A compiled report as it is stored. -/
structure StoredReport where
  id : String
  clientId : Option String
  clientData : Payload
  configurations : Payload
  text : String
  createdAt : Instant
  deriving Repr

/-- Why a stored report cannot be exported. -/
inductive DocumentFault
  /-- The data of the client is neither a record nor empty. -/
  | noRecord (data : Payload)
  /-- A part of the client's name is no text; the parts are counted from zero. -/
  | badNamePart (index : Nat) (part : Payload)
  deriving DecidableEq, Repr

namespace StoredReport

/-- The text of every part of a name; the first part counted has the given index. -/
def nameTexts (index : Nat) : List Payload → Except DocumentFault (List String)
  | [] => .ok []
  | .text value :: rest => (nameTexts (index + 1) rest).map (value :: ·)
  | part :: _ => .error (.badNamePart index part)

/-- The parts of the client's name that are there. -/
def nameParts (fields : Entries Payload) : List Payload :=
  ([Key.firstName, Key.lastName].filterMap fun key => Entries.get? fields key.wire).filter
    (·.isFilled)

/-- What stands for the client's name when no part of it is there. -/
def unnamed : String := "Client"

/-- The name of the client whom the report is for. -/
def clientName (r : StoredReport) : Except DocumentFault String :=
  if !r.clientData.isFilled then .ok unnamed
  else match r.clientData with
    | .record fields => (nameTexts 0 (nameParts fields)).map fun
      | [] => unnamed
      | texts => " ".intercalate texts
    | data => .error (.noRecord data)

/-- The first lines of the exported document. -/
def header (r : StoredReport) (name : String) : String :=
  "FINANCIAL PLAN - " ++ name ++ "\n" ++ "Created: " ++ r.createdAt.minuteText ++ "\n" ++
    "Report ID: " ++ r.id ++ "\n"

/-- The exported document: header, an empty line, the text of the report. -/
def document (r : StoredReport) : Except DocumentFault String :=
  r.clientName.map fun name => r.header name ++ "\n" ++ r.text ++ "\n"

/-- The name under which the document is downloaded. -/
def fileName (r : StoredReport) : String :=
  "financial_plan_" ++ r.id ++ ".txt"

/-- The texts of the report that stand in columns of their own can be stored. -/
def isWhole (r : StoredReport) : Bool :=
  Text.isWhole r.text.toList && r.clientId.all fun id => Text.isWhole id.toList

end StoredReport

/-- The stored reports. -/
structure Archive where
  /-- In the order in which they were saved. -/
  reports : List StoredReport := []
  /-- The table that holds them exists. -/
  hasTable : Bool := true
  /-- What failed first, as long as the work that it belonged to is not given up. -/
  interruption : Option String := none
  deriving Repr

namespace Archive

/-- A report as its columns keep it. -/
def kept (row : ReportRow) : Except StorageFault StoredReport := do
  let s := Statement.insertion row
  let clientId ← s.column 2 row.clientId
  match ← s.column 5 row.text with
  | none => throw (.refused (.noValue "generated_report") s)
  | some text =>
    pure { id := row.id, clientId, clientData := row.clientData,
           configurations := row.configurations, text, createdAt := row.createdAt }

/-- The archive with one more report, and the report as it is kept. -/
def save (a : Archive) (row : ReportRow) : Except StorageFault (StoredReport × Archive) := do
  if !a.hasTable then throw .tableMissing
  let r ← kept row
  if !r.isWhole then throw .brokenText
  if a.reports.any fun other => other.id = r.id then
    throw (.refused (.notUnique "id") (.insertion row))
  pure (r, { a with reports := a.reports ++ [r] })

/-- The archive after something failed. -/
def interruptedBy (a : Archive) (fault : StorageFault) : Archive :=
  { a with interruption := some fault.message }

/-- The archive for new work. -/
def reopened (a : Archive) : Archive :=
  { a with interruption := none }

/-- The report with the given id. -/
def find? (a : Archive) (id : String) : Option StoredReport :=
  a.reports.find? fun r => r.id = id

/-- Something failed before, and the work that it belonged to was not given up since. -/
def checkOpen (a : Archive) : Except StorageFault Unit :=
  match a.interruption with
  | some first => .error (.interrupted first)
  | none => .ok ()

/-- The report whose id is what a column would keep of a value. -/
def select (a : Archive) (id : Payload) : Except StorageFault (Option StoredReport) := do
  a.checkOpen
  pure ((← (Statement.selection id).column 1 id).bind a.find?)

/-- The reports with the newest first; of two created at the same time the one saved later. -/
def newest (a : Archive) : List StoredReport :=
  a.reports.reverse.mergeSort fun r s => decide (s.createdAt.micros ≤ r.createdAt.micros)

/-- At most so many of the newest reports, or all of them. -/
def list (a : Archive) (limit : Option Nat) : List StoredReport :=
  match limit with
  | some count => a.newest.take count
  | none => a.newest

/-- The archive without its table. -/
def dropped (a : Archive) : Archive :=
  { a with reports := [], hasTable := false }

end Archive

end PlanCompiler
