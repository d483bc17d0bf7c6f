import PlanCompiler.Schema.Record
import PlanCompiler.Service.Basic
import PlanCompiler.Service.Strategies
import PlanCompiler.Settings.Variables

/-!
# Settings

How the service is set up: by environment variables, and by arguments that win over them. Settings
are checked one by one when they are read, and once more against the environment before the service
starts.

* `read`, `load`: the settings, and the arguments that are no settings;
* `complaints`: what is wrong for the environment;
* `startedCatalog`: the catalog with which the service starts.
-/

namespace PlanCompiler

open Schema

/-- Where the service runs. -/
inductive Environment
  | dev
  | staging
  | prod
  deriving DecidableEq, Repr

/-- The environments under their names. -/
def Environment.choices : List (String × Environment) :=
  [("dev", .dev), ("staging", .staging), ("prod", .prod)]

/-- The name of an environment. -/
def Environment.name : Environment → String
  | .dev => "dev"
  | .staging => "staging"
  | .prod => "prod"

/-- How log lines are laid out. -/
inductive LogFormat
  | json
  | text
  deriving DecidableEq, Repr

/-- The layouts under their names. -/
def LogFormat.choices : List (String × LogFormat) :=
  [("json", .json), ("text", .text)]

/-- The name of a layout. -/
def LogFormat.name : LogFormat → String
  | .json => "json"
  | .text => "text"

/-- The settings. -/
structure Settings where
  environment : Environment := .dev
  databaseUrl : String := "sqlite:///./finplan.db"
  logLevel : String := "INFO"
  logFormat : LogFormat := .json
  logFile : Option String := none
  seedsBuiltIn : Bool := true
  listLimit : Int := 100
  /-- The client to whom a list of configurations belongs when none is named. -/
  defaultClient : String := "anonymous"
  /-- Arguments that are no settings. -/
  others : Entries Payload := []
  deriving Repr

namespace Settings

/-- The settings under their names. -/
def keys : List Key :=
  ["ENV", "DATABASE_URL", "LOG_LEVEL", "LOG_FORMAT", "LOG_FILE", "SEED_DEFAULT_STRATEGIES",
    "REPORT_LIST_LIMIT", "DEFAULT_CLIENT_ID"].map Key.single

/-- The settings as flags name them. -/
def flagged : List FlaggedSetting :=
  keys.map fun key =>
    { name := key.wire
      isSwitch := key.wire = "SEED_DEFAULT_STRATEGIES"
      isNullable := key.wire = "LOG_FILE" }

/-- A database address that is not empty. -/
def readUrl (p : Payload) : Checked String :=
  (readText p).ensure (fun value => !value.isEmpty) (.brokenRule .databaseUrlRequired) p

/-- A limit that lets something through. -/
def readLimit (p : Payload) : Checked Int :=
  (readInteger p).ensure (fun value => decide (1 ≤ value)) (.brokenRule .listLimitTooSmall) p

/-- The variables that are settings, overridden by the arguments, and those by a command line. -/
def merged (lookup : Lookup) (vars : Entries String) (arguments : Entries Payload) :
    Entries Payload :=
  Entries.putAll
    (keys.filterMap fun key => (lookup.find? vars key.wire).map fun p => (key.wire, p))
    ((arguments.filter fun entry => !Options.isOption entry.1) ++ lookup.named)

/-- Read the settings. -/
def read (given : Entries Payload) : Checked Settings :=
  let initial : Settings := {}
  Settings.mk
    <$> optional given (.single "ENV") initial.environment (readChoice Environment.choices)
    <*> optional given (.single "DATABASE_URL") initial.databaseUrl readUrl
    <*> optional given (.single "LOG_LEVEL") initial.logLevel readText
    <*> optional given (.single "LOG_FORMAT") initial.logFormat (readChoice LogFormat.choices)
    <*> nullable given (.single "LOG_FILE") readText
    <*> optional given (.single "SEED_DEFAULT_STRATEGIES") initial.seedsBuiltIn readBoolean
    <*> optional given (.single "REPORT_LIST_LIMIT") initial.listLimit readLimit
    <*> optional given (.single "DEFAULT_CLIENT_ID") initial.defaultClient readText
    <*> pure (unclaimed keys given)

/-- A name that no argument may have. -/
def reservedName : String := "__pydantic_self__"

/-- Why there are no settings. -/
inductive LoadFault
  | variable (fault : VariableFault)
  /-- An argument has the name that none may have. -/
  | reserved
  | option (fault : OptionFault)
  | invalid (rejection : Rejection)
  deriving DecidableEq, Repr

/-- What settings are read from: variables and arguments, or nothing at all where the arguments
bring sources of their own. -/
def gather (tree : FileTree) (vars : Entries String) (arguments : Entries Payload) :
    Except OptionFault (Entries Payload) :=
  match Options.option? arguments "_build_sources" with
  | some sources => (Lookup.noSources sources).map fun _ => []
  | none => do
    let homes := ((Entries.get? vars "HOME").map (Entries.put tree.homes "")).getD tree.homes
    let lookup ← Lookup.ofArguments { tree with homes } flagged arguments
    pure (merged lookup vars arguments)

/-- The settings that environment variables and arguments give on a machine. -/
def load (tree : FileTree) (environment arguments : Entries Payload) :
    Except LoadFault Settings := do
  let vars ← (readVariables environment).mapError .variable
  if Entries.contains arguments reservedName then throw .reserved
  let given ← (gather tree vars arguments).mapError .option
  ((read given).named "Settings").mapError .invalid

/-- Write the settings and the arguments that are none. -/
def write (s : Settings) : Payload :=
  .record ([("ENV", .text s.environment.name), ("DATABASE_URL", .text s.databaseUrl),
    ("LOG_LEVEL", .text s.logLevel), ("LOG_FORMAT", .text s.logFormat.name),
    ("LOG_FILE", (s.logFile.map Payload.text).getD .null),
    ("SEED_DEFAULT_STRATEGIES", .boolean s.seedsBuiltIn),
    ("REPORT_LIST_LIMIT", .integer s.listLimit),
    ("DEFAULT_CLIENT_ID", .text s.defaultClient)] ++ s.others)

/-- The database is a local file or lives in memory. -/
def isSqlite (s : Settings) : Bool :=
  "sqlite".toList.isPrefixOf s.databaseUrl.toList

/-- What the environment does not allow. -/
inductive Complaint
  | noDatabaseUrl
  | noDefaultClient
  | localDatabase
  | notJson
  deriving DecidableEq, Repr

/-- The text of a complaint. -/
def Complaint.message : Complaint → String
  | .noDatabaseUrl => "DATABASE_URL is required"
  | .noDefaultClient => "DEFAULT_CLIENT_ID must not be empty"
  | .localDatabase => "DATABASE_URL must point to a server database in production, not SQLite"
  | .notJson => "LOG_FORMAT must be 'json' in production"

/-- What is wrong with the settings for their environment. -/
def complaints (s : Settings) : List Complaint :=
  let production := s.environment = .prod
  (if s.databaseUrl.isEmpty then [.noDatabaseUrl] else []) ++
    (if s.defaultClient.isEmpty then [.noDefaultClient] else []) ++
    (if production && s.isSqlite then [.localDatabase] else []) ++
    (if production && s.logFormat ≠ .json then [.notJson] else [])

/-- All complaints under one headline. -/
def complaintText (complaints : List Complaint) : String :=
  "Configuration validation failed:\n" ++
    "\n".intercalate (complaints.map fun c => "  - " ++ c.message)

/-- Why the service does not start. -/
inductive StartFault
  | unfit (complaints : List Complaint)
  | databaseDown (reason : String)
  deriving DecidableEq, Repr

/-- The text of a start fault. -/
def StartFault.message : StartFault → String
  | .unfit complaints => complaintText complaints
  | .databaseDown reason => reason

/-- The catalog with which the service starts, if the settings are fit and the database answers. -/
def startedCatalog (s : Settings) (down : Option String) : Except StartFault Catalog :=
  if s.complaints.isEmpty then
    match down with
    | some reason => .error (.databaseDown reason)
    | none => .ok (if s.seedsBuiltIn then (Service.seed {}).service.catalog else {})
  else .error (.unfit s.complaints)

end Settings

end PlanCompiler
