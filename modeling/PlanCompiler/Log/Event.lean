/-!
# Log events

What the library reports while it works, as data. The wording of every message and its level are
fixed here.
-/

namespace PlanCompiler

/-- How much a log message matters. -/
inductive Severity
  | debug
  | info
  deriving DecidableEq, Repr

/-- The name of a severity. -/
def Severity.name : Severity → String
  | .debug => "DEBUG"
  | .info => "INFO"

/-- Something worth a line in the log. -/
inductive Event
  | seeded (count : Nat)
  | rebuiltIndices (count : Nat)
  | added (title id : String)
  | addedCustom (title id : String)
  | updated (title id : String)
  | deleted (id : String) (pruned : Nat)
  | imported (count : Nat)
  | droppedConfigs (count : Nat) (client : String)
  | fieldWithoutValue (fieldId : String)
  | skippedUnknown (strategyId : String)
  | compiled (strategies sections : Nat)
  | generated (reportId : String) (configurations : Nat)
  deriving DecidableEq, Repr

namespace Event

/-- Details of the work are for debugging, results are for information. -/
def severity : Event → Severity
  | .rebuiltIndices _ | .fieldWithoutValue _ => .debug
  | _ => .info

/-- The message of an event. -/
def message : Event → String
  | .seeded count => s!"Seeded {count} built-in strategies"
  | .rebuiltIndices count => s!"Rebuilt catalog indices over {count} strategies"
  | .added title id => s!"Added strategy: {title} (ID: {id})"
  | .addedCustom title id => s!"Added custom strategy: {title} (ID: {id})"
  | .updated title id => s!"Updated strategy: {title} (ID: {id})"
  | .deleted id pruned =>
    s!"Deleted strategy with ID: {id} (pruned from {pruned} client configurations)"
  | .imported count => s!"Imported {count} strategies"
  | .droppedConfigs count client =>
    s!"Dropped {count} configurations for unknown strategies (client {client})"
  | .fieldWithoutValue fieldId => s!"No value for field '{fieldId}'; placeholder left unexpanded"
  | .skippedUnknown strategyId =>
    s!"Skipping configuration for unknown strategy '{strategyId}'"
  | .compiled strategies sections =>
    s!"Compiled report: {strategies} strategies in {sections} sections"
  | .generated reportId configurations =>
    s!"Generated report {reportId} from {configurations} configurations"

/-- Severity and message on one line. -/
def line (e : Event) : String :=
  e.severity.name ++ " " ++ e.message

end Event

end PlanCompiler
