import PlanCompiler.Settings

/-!
# Setting up the log

Where log lines go, how they are laid out, and from which level on messages are logged. A log file
is opened when the log is set up, so its directory has to be there.

* `Settings.logThreshold`: the level;
* `Settings.logSinks`: the sinks with their layouts;
* `Settings.logSetup`: both, if the log file can be written.
-/

namespace PlanCompiler

/-- Names that are taken by a layout and therefore no name of a level. -/
inductive ReservedName
  | layout
  | layouts
  deriving DecidableEq, Repr

/-- Why the log cannot be set up. -/
inductive LoggingFault
  | reservedLevel (name : ReservedName)
  /-- The path of the log file holds a null character. -/
  | nullInPath
  | file (path : String) (cause : FileFault)
  deriving DecidableEq, Repr

/-- Where log lines go. -/
inductive LogSink
  | console
  | file
  deriving DecidableEq, Repr

namespace Settings

/-- Log levels by name. -/
def levels : List (List Char × Nat) :=
  [("CRITICAL".toList, 50), ("FATAL".toList, 50), ("ERROR".toList, 40), ("WARNING".toList, 30),
    ("WARN".toList, 30), ("INFO".toList, 20), ("DEBUG".toList, 10), ("NOTSET".toList, 0)]

/-- Names that are taken by a layout. -/
def reservedNames : List (List Char × ReservedName) :=
  [("BASIC_FORMAT".toList, .layout), ("_STYLES".toList, .layouts)]

/-- The level from which on messages are logged; a name that is no level stands for `INFO`. -/
def logThreshold (s : Settings) : Except LoggingFault Nat :=
  let name := Text.upper s.logLevel.toList
  match reservedNames.lookup name with
  | some reserved => .error (.reservedLevel reserved)
  | none => .ok ((levels.lookup name).getD 20)

/-- The log file, if there is one. -/
def logFile? (s : Settings) : Option String :=
  s.logFile.filter (!·.isEmpty)

/-- The sinks with their layouts. A log file is always written as JSON. -/
def logSinks (s : Settings) : List (LogSink × LogFormat) :=
  (.console, s.logFormat) :: (if s.logFile?.isSome then [(.file, .json)] else [])

/-- Level and sinks of the log, if the log file can be written. -/
def logSetup (s : Settings) (tree : FileTree) :
    Except LoggingFault (Nat × List (LogSink × LogFormat)) := do
  let threshold ← s.logThreshold
  if s.logFile?.any fun path => path.toList.contains '\x00' then throw .nullInPath
  match s.logFile?.bind fun path => (tree.openFault? path).map fun cause => (path, cause) with
  | some (path, cause) => .error (.file (directPath path) cause)
  | none => pure (threshold, s.logSinks)

end Settings

end PlanCompiler
