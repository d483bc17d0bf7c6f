import PlanCompiler.Instant
import PlanCompiler.Json.Line
import PlanCompiler.Payload.Spelled
import PlanCompiler.Report.Column

/-!
# Statements

What the storage is asked to do: a text with places for values. A statement that is refused is
reported with its text and its values, a long value without its middle.

* `Statement.insertion`, `Statement.selection`: a report stored, and one looked up by its id;
* `Statement.column`: the text that a column keeps of a value, or why it keeps none;
* `StorageFault.message`: what is reported.
-/

namespace PlanCompiler

/-- A text with places for values, and the values. -/
structure Statement where
  text : String
  values : List Payload
  deriving DecidableEq, Repr

/-- A report as it is handed over to be stored: a value for each column. -/
structure ReportRow where
  id : String
  clientId : Payload
  clientData : Payload
  configurations : Payload
  text : Payload
  createdAt : Instant
  deriving Repr

namespace Statement

/-- Store a report. Data and configurations are stored as JSON. -/
def insertion (row : ReportRow) : Statement where
  text := "INSERT INTO reports (id, client_id, client_data, strategy_configurations, " ++
    "generated_report, created_at) VALUES (?, ?, ?, ?, ?, ?)"
  values :=
    [.text row.id, row.clientId, .text (String.ofList (Json.write row.clientData)),
      .text (String.ofList (Json.write row.configurations)), row.text,
      .text row.createdAt.columnText]

/-- Look up a report by its id. -/
def selection (id : Payload) : Statement where
  text := "SELECT reports.id AS reports_id, reports.client_id AS reports_client_id, " ++
    "reports.client_data AS reports_client_data, " ++
    "reports.strategy_configurations AS reports_strategy_configurations, " ++
    "reports.generated_report AS reports_generated_report, " ++
    "reports.created_at AS reports_created_at \nFROM reports \nWHERE reports.id = ?\n " ++
    "LIMIT ? OFFSET ?"
  values := [id, .integer 1, .integer 0]

/-- How many characters of a value are shown. -/
def shownLength : Nat := 300

/-- A text without its middle, if it is too long to be shown. -/
def shortened (s : List Char) : List Char :=
  let half := shownLength / 2
  if s.length ≤ shownLength then s
  else s.take half ++ s!" ... ({s.length - shownLength} characters truncated) ... ".toList ++
    s.drop (s.length - half)

/-- Text and values as they are reported. -/
def report (s : Statement) : String :=
  let values := s.values.map fun value => shortened value.literal
  "[SQL: " ++ s.text ++ "]\n[parameters: (" ++
    String.ofList (Text.joined ", ".toList values) ++ ")]"

end Statement

/-- Why the storage refuses a statement. -/
inductive Objection
  /-- A column that needs a value has none. -/
  | noValue (column : String)
  /-- A column that holds no value twice would do so. -/
  | notUnique (column : String)
  /-- A value is made of others; the values are counted from one. -/
  | notScalar (place : Nat) (value : Payload)
  deriving DecidableEq, Repr

namespace Objection

/-- Where an objection is explained, by its code. -/
def explanation (code : String) : String :=
  let address := "//".intercalate ["https:", "/".intercalate ["sqlalche.me", "e", "21", code]]
  "(Background on this error at: " ++ address ++ ")"

/-- The code of an objection. -/
def code : Objection → String
  | .noValue _ | .notUnique _ => "gkpj"
  | .notScalar _ _ => "f405"

/-- What an objection says about itself. -/
def message : Objection → String
  | .noValue column => "(sqlite3.IntegrityError) NOT NULL constraint failed: reports." ++ column
  | .notUnique column => "(sqlite3.IntegrityError) UNIQUE constraint failed: reports." ++ column
  | .notScalar place value =>
    let kind := match value with
      | .record _ => "dict"
      | _ => "list"
    s!"(sqlite3.ProgrammingError) Error binding parameter {place}: type '{kind}' is not supported"

end Objection

/-- Why the storage could not do its work. -/
inductive StorageFault
  | unreachable (reason : String)
  | tableMissing
  | brokenText
  /-- An integer takes more than 64 bits. -/
  | tooLarge
  | refused (objection : Objection) (statement : Statement)
  /-- Something failed before, and the work that it belonged to was not given up since. -/
  | interrupted (first : String)
  deriving DecidableEq, Repr

/-- The text of a storage fault. -/
def StorageFault.message : StorageFault → String
  | .unreachable reason => reason
  | .tableMissing => "no such table: reports"
  | .brokenText => "text holds a lone surrogate"
  | .tooLarge => "Python int too large to convert to SQLite INTEGER"
  | .refused objection statement =>
    "\n".intercalate [objection.message, statement.report, Objection.explanation objection.code]
  | .interrupted first =>
    "This Session's transaction has been rolled back due to a previous exception during flush. " ++
      "To begin a new transaction with this Session, first issue Session.rollback(). " ++
      "Original exception was: " ++ first ++ " " ++ Objection.explanation "7s2a"

/-- The text that a column keeps of a value at a place of a statement. -/
def Statement.column (s : Statement) (place : Nat) (value : Payload) :
    Except StorageFault (Option String) :=
  match Column.text value with
  | .ok kept => .ok kept
  | .error .tooLarge => .error .tooLarge
  | .error .notScalar => .error (.refused (.notScalar place value) s)

end PlanCompiler
