import PlanCompiler.Instant
import PlanCompiler.Json.Line
import PlanCompiler.Log.Message

/-!
# Log lines

A log record as one line of JSON. The fixed members come first, fields that the caller adds after
them, a failure last; a member that is set again keeps its place and takes the new value.

Two limits are met on the way, each as far as it leaves room where it is met: that of the values
spelled out in the level and in the message, and that of the members when they are written.

* `LogRecord.members`: the members of the line;
* `LogRecord.line`: the line.
-/

namespace PlanCompiler

/-- A failure that a record reports. -/
structure LoggedFailure where
  type : String
  message : String
  deriving Repr

/-- A log record. -/
structure LogRecord where
  logger : Payload
  level : Payload
  message : Payload
  /-- What goes into the places of the message. -/
  arguments : List Payload := []
  /-- The request in which the record was made, if it names one. -/
  requestId : Option Payload := none
  extras : Entries Payload := []
  failure : Option LoggedFailure := none
  deriving Repr

namespace LogRecord

/-- Log levels with a name of their own. -/
def levelNames : List (Int × String) :=
  [(50, "CRITICAL"), (40, "ERROR"), (30, "WARNING"), (20, "INFO"), (10, "DEBUG"), (0, "NOTSET")]

/-- Log levels by name. -/
def levelNumbers : List (String × Int) :=
  [("CRITICAL", 50), ("FATAL", 50), ("ERROR", 40), ("WARNING", 30), ("WARN", 30), ("INFO", 20),
    ("DEBUG", 10), ("NOTSET", 0)]

/-- The integer that a level is equal to. -/
def levelNumber? : Payload → Option Int
  | .integer i => some i
  | .boolean b => some (if b then 1 else 0)
  | .double x => x.toInt?
  | _ => none

/-- Why a level has no name. -/
inductive LevelFault
  /-- Nothing is looked up under a list or a record. -/
  | composite (level : Payload)
  | excess (excess : Excess)
  deriving DecidableEq, Repr

/-- The name of a level; of a name the level, and of any other level a description. -/
def levelName (limits : Limits) (level : Payload) : Except LevelFault Payload :=
  match (levelNumber? level).bind (levelNames.lookup ·), level with
  | some name, _ => .ok (.text name)
  | none, .text name =>
    match levelNumbers.lookup name with
    | some number => .ok (.integer number)
    | none => .ok (.text ("Level " ++ name))
  | none, .list items => .error (.composite (.list items))
  | none, .record fields => .error (.composite (.record fields))
  | none, p =>
    ((p.spelledWithin limits).mapError .excess).map fun s => .text ("Level " ++ String.ofList s)

/-- The message of the record. Without arguments it stands as it is. -/
def text (limits : Limits) (r : LogRecord) : Except LogMessage.Fault String := do
  let template ← (r.message.spelledWithin limits).mapError .excess
  if r.arguments.isEmpty then pure (String.ofList template)
  else String.ofList <$> LogMessage.fill limits template r.arguments

/-- A failure as type and message. -/
def failureText (f : LoggedFailure) : String :=
  if f.message.isEmpty then f.type else f.type ++ ": " ++ f.message

/-- The members that every record has. -/
def fixedMembers (r : LogRecord) (now : Instant) (level : Payload) (text : String) :
    Entries Payload :=
  [("timestamp", .text (now.iso ++ "+00:00")), ("level", level), ("logger", r.logger),
    ("message", .text text)]

/-- The members of the line, given the name of the level and the text of the message. -/
def members (r : LogRecord) (now : Instant) (level : Payload) (text : String) : Entries Payload :=
  let named := match r.requestId with
    | none => r.fixedMembers now level text
    | some id => Entries.put (r.fixedMembers now level text) "request_id" id
  let extended := Entries.putAll named r.extras
  match r.failure with
  | some f => Entries.put extended "exception" (.text (failureText f))
  | none => extended

/-- Why a record has no line: its level is not described, its message is not put together, or its
members are not written. -/
inductive Fault
  | level (fault : LevelFault)
  | message (fault : LogMessage.Fault)
  | members (excess : Excess)
  deriving DecidableEq, Repr

/-- The line for a record written at the given time. What is spelled out in its level and its
message is held to the limits `spelling`, what is written as JSON to the limits `writing`. -/
def line (r : LogRecord) (spelling writing : Limits) (now : Instant) : Except Fault String := do
  let level ← (levelName spelling r.level).mapError .level
  let text ← (r.text spelling).mapError .message
  let members := Payload.record (r.members now level text)
  String.ofList <$> (Json.writeWithin writing members).mapError .members

end LogRecord

end PlanCompiler
