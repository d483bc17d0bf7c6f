import PlanCompiler.Payload.Entered
import PlanCompiler.Schema.Coercion
import PlanCompiler.Settings.CommandLine
import PlanCompiler.Text.Identifier

/-!
# Options and flags

Some arguments are no settings but say how settings are looked up: among which variables, in which
files, under which names. A null option is the same as none.

Among other things they ask for the flags of a command line. A flag is a mark twice and the name of
a setting, or once and a single letter. The arguments choose the mark, what stands before names,
further names, and whether a truth value is switched without a value.

* `Options.isOption`: which arguments are options;
* `Options.option?`, `Options.text?`, `Options.isSet`: an option of the arguments;
* `Flags.grammar`: the flags of settings, or why there are none;
* `Flags.nullWord`: the word that stands for null.
-/

namespace PlanCompiler

open Schema

/-! ## Options -/

namespace Options

/-- The arguments that say how settings are looked up; those without a meaning here are only taken
out. -/
def names : List String :=
  ["_case_sensitive", "_nested_model_default_partial_update", "_env_prefix", "_env_file",
    "_env_file_encoding", "_env_ignore_empty", "_env_nested_delimiter", "_env_nested_max_split",
    "_env_parse_none_str", "_env_parse_enums", "_cli_prog_name", "_cli_parse_args",
    "_cli_settings_source", "_cli_parse_none_str", "_cli_hide_none_type", "_cli_avoid_json",
    "_cli_enforce_required", "_cli_use_class_docs_for_groups", "_cli_exit_on_error", "_cli_prefix",
    "_cli_flag_prefix_char", "_cli_implicit_flags", "_cli_ignore_unknown_args", "_cli_kebab_case",
    "_cli_shortcuts", "_cli_show_env_vars", "_secrets_dir", "_build_sources",
    "_env_prefix_target", "_env_file_depth"]

/-- The argument is no setting. -/
def isOption (name : String) : Bool :=
  names.contains name

/-- An option that is there and not null. -/
def option? (arguments : Entries Payload) (name : String) : Option Payload :=
  (Entries.get? arguments name).filter (· ≠ .null)

/-- The text of an option. -/
def text? (arguments : Entries Payload) (name : String) : Option String :=
  (option? arguments name).bind Payload.toText?

/-- A truth value that is an option. -/
def isSet (arguments : Entries Payload) (name : String) : Bool :=
  (option? arguments name).any (·.isFilled)

/-- The payload is a number or a truth value. -/
def isNumeric : Payload → Bool
  | .integer _ | .double _ | .boolean _ => true
  | _ => false

/-- Capitals and small letters differ, unless the arguments say otherwise. -/
def casesDiffer (arguments : Entries Payload) : Bool :=
  (option? arguments "_case_sensitive").all (·.isFilled)

end Options

/-! ## Flags -/

/-- A setting that a flag may name. -/
structure FlaggedSetting where
  name : String
  /-- It is a truth value. -/
  isSwitch : Bool := false
  isNullable : Bool := false
  deriving DecidableEq, Repr

/-- Why the arguments ask for no flags. -/
inductive FlagFault
  /-- What should be marks is no text, or an empty one. -/
  | badMarks (value : Payload)
  /-- What should stand before names is no text and not empty … -/
  | badStart (value : Payload)
  /-- … or has no length … -/
  | unsizedStart (value : Payload)
  /-- … or is no name. -/
  | unnamedStart (text : String)
  /-- Options are not what they should be. -/
  | invalid (rejection : Rejection)
  /-- The word for null is no text. -/
  | badNullWord (value : Payload)
  /-- Further names are not given by settings … -/
  | notShortcuts (value : Payload)
  /-- … or those of one setting are not several … -/
  | notNames (value : Payload)
  /-- … or one of them has no length … -/
  | notName (value : Payload)
  /-- … or is an empty text … -/
  | emptyName
  /-- … or is written without marks. -/
  | unmarked (spelling : String) (marks : List Char)
  /-- Some spellings of a flag are spellings of another. -/
  | conflict (flag : String) (spellings : List String)
  deriving DecidableEq, Repr

/-- What is said about spellings that a flag shares with another. -/
def FlagFault.conflictMessage (flag : String) (spellings : List String) : String :=
  let noun := if spellings.length = 1 then "string" else "strings"
  "argument " ++ flag ++ s!": conflicting option {noun}: " ++ ", ".intercalate spellings

namespace Flags

open CommandLine Options

/-! ## Options of flags -/

/-- The word that stands for null. -/
def nullWord (arguments : Entries Payload) : Payload :=
  let given := ["_env_parse_none_str", "_cli_parse_none_str"].filterMap (option? arguments)
  (given.find? (·.isFilled)).getD
    (.text (if option? arguments "_cli_avoid_json" = some (.boolean true) then "None" else "null"))

/-- What should be marks. -/
def marksOption (arguments : Entries Payload) : Payload :=
  (option? arguments "_cli_flag_prefix_char").getD (.text "-")

/-- What should be marks can be written twice. -/
def canDouble : Payload → Bool
  | .record _ => false
  | _ => true

/-- The marks. -/
def readMarks (arguments : Entries Payload) : Except FlagFault (List Char) :=
  match marksOption arguments with
  | .text marks => if marks.isEmpty then .error (.badMarks (.text marks)) else .ok marks.toList
  | p => .error (.badMarks p)

/-- A text that may stand before names: names with points between them. -/
def isStart (text : List Char) : Bool :=
  text.head? ≠ some '.' && text.getLast? ≠ some '.' && Text.isName (text.filter (· ≠ '.'))

/-- What stands before names, with a point between. Something empty that is no text is taken at
first. -/
def startOption (arguments : Entries Payload) : Except FlagFault Payload :=
  match option? arguments "_cli_prefix" with
  | none => .ok (.text "")
  | some (.text text) =>
    if text.isEmpty then .ok (.text "")
    else if isStart text.toList then .ok (.text (text ++ "."))
    else .error (.unnamedStart text)
  | some p =>
    if p.isFilled then .error (.badStart p)
    else if isNumeric p then .error (.unsizedStart p)
    else .ok p

/-- How names are hyphenated: a truth value or one of two words. -/
def readHyphenation (p : Payload) : Checked Unit :=
  match readBoolean p, readChoice [("all", ()), ("no_enums", ())] p with
  | .valid _, _ | _, .valid _ => .valid ()
  | .invalid issues, .invalid others =>
    .invalid (issues.map (·.under (.field "bool")) ++
      others.map (·.under (.field "literal['all','no_enums']")))

/-- What stands before names, if all options of flags are what they should be. -/
def readStart (arguments : Entries Payload) (start : Payload) : Checked String :=
  let given (name : String) (default : Bool) : Payload :=
    (option? arguments name).getD (.boolean default)
  (fun start _ _ _ => start)
    <$> (readText start).under (.field "arg_prefix")
    <*> (readBoolean (given "_case_sensitive" true)).under (.field "case_sensitive")
    <*> (readBoolean (given "_cli_hide_none_type" false)).under (.field "hide_none_type")
    <*> (readHyphenation (given "_cli_kebab_case" false)).under (.field "kebab_case")

/-! ## Names -/

/-- The name of a setting as it is compared. -/
def casedName (arguments : Entries Payload) (name : String) : String :=
  if casesDiffer arguments then name else String.ofList (name.toList.map Binary64.asciiLower)

/-- Names are written with hyphens. -/
def hyphenates (arguments : Entries Payload) : Bool :=
  (option? arguments "_cli_kebab_case").any fun p => !(isNumeric p && !p.isFilled)

/-- A name with hyphens in the place of underscores. -/
def hyphenated (name : String) : String :=
  String.ofList (name.toList.map fun c => if c = '_' then '-' else c)

/-- The names that an entry of the shortcuts gives. -/
def entryNames : Payload → Except FlagFault (List Payload)
  | .text name => .ok [.text name]
  | p => match p.items? with
    | some names => .ok names
    | none => .error (.notNames p)

/-- Names of a setting with those that the shortcuts add; each entry of them is for a name. -/
def withShortcuts (taken names : List Payload) : Entries Payload → Except FlagFault (List Payload)
  | [] => .ok names
  | (name, entry) :: rest =>
    if names.contains (.text name) then do
      let more ← entryNames entry
      withShortcuts taken (names ++ more.filter fun p => !(taken.contains p)) rest
    else withShortcuts taken names rest

/-- The names of a setting that is named so at first. -/
def namesOf (arguments : Entries Payload) (taken : List Payload) (name : String) :
    Except FlagFault (List Payload) :=
  let names := if taken.contains (.text name) then [] else [Payload.text name]
  match (option? arguments "_cli_shortcuts").filter (·.isFilled) with
  | none => .ok names
  | some (.record shortcuts) => withShortcuts taken names shortcuts
  | some p => .error (.notShortcuts p)

/-! ## Spellings -/

/-- How many parts a name has: letters, or items. -/
def nameSize : Payload → Except FlagFault Nat
  | .text name => .ok (Text.size name.toList)
  | .list items => .ok items.length
  | .record fields => .ok fields.length
  | p => .error (.notName p)

/-- The spelling of a flag: marks, as many as the name has parts and at most all of them twice, and
the name. -/
def spelling (marks : List Char) (name : Payload) : Except FlagFault String := do
  let count ← nameSize name
  pure (String.ofList ((marks ++ marks).take count ++ name.spelled))

/-- The spelling begins with a mark. -/
def checkSpelling (marks : List Char) (spelling : String) : Except FlagFault Unit :=
  match spelling.toList with
  | [] => .error .emptyName
  | first :: _ => if marks.contains first then .ok () else .error (.unmarked spelling marks)

/-- The spellings of a flag with the given names. -/
def spellings (marks : List Char) (names : List Payload) : Except FlagFault (List String) := do
  let spellings ← names.mapM (spelling marks)
  spellings.forM (checkSpelling marks)
  pure spellings

/-- What the spelling of a flag begins with that switches something off. -/
def offStart : String := "--no-"

/-- The spelling switches something on. -/
def switchesOn (spelling : String) : Bool :=
  !offStart.toList.isPrefixOf spelling.toList

/-- Spellings, each with one that switches off if it is a long one. -/
def withOffSpellings (spellings : List String) : List String :=
  spellings.flatMap fun spelling =>
    match spelling.toList with
    | '-' :: '-' :: name => [spelling, offStart ++ String.ofList name]
    | _ => [spelling]

/-- The spellings of a setting and what each of them is for. -/
def purposes (arguments : Entries Payload) (setting : FlaggedSetting) (spellings : List String) :
    Entries Purpose :=
  let implicit := if setting.isSwitch then option? arguments "_cli_implicit_flags" else none
  match implicit.filter (·.isFilled) with
  | none => spellings.map fun spelling => (spelling, .value setting.name)
  | some (.text "toggle") => spellings.map fun spelling => (spelling, .switch setting.name false)
  | some _ => (withOffSpellings spellings).map fun spelling =>
      (spelling, .switch setting.name (switchesOn spelling))

/-- All spellings of a flag, as messages name it. -/
def titleOf (spellings : List String) : String :=
  "/".intercalate spellings

/-- The flags with a further one, unless it shares a spelling with another. -/
def addFlag (flags : Entries Flag) (uses : Entries Purpose) : Except FlagFault (Entries Flag) :=
  let title := titleOf (Entries.keys uses)
  let shared := (Entries.keys uses).filter fun spelling => Entries.contains flags spelling
  if shared.isEmpty then .ok (flags ++ Entries.mapValues (fun purpose => ⟨title, purpose⟩) uses)
  else .error (.conflict title shared)

/-- The mark of the flags that ask for help. -/
def helpMark (marks : List Char) : Char :=
  if marks.contains '-' then '-' else marks.headD '-'

/-- The flags that ask for help. -/
def helpFlags (marks : List Char) : Entries Flag :=
  let mark := helpMark marks
  let spellings := [String.ofList [mark, 'h'], String.ofList [mark, mark] ++ "help"]
  spellings.map fun spelling => (spelling, ⟨titleOf spellings, .help⟩)

/-! ## The grammar -/

/-- Flags, and the names that are taken. -/
structure Names where
  flags : Entries Flag
  taken : List Payload := []

/-- The flags with that of a further setting. A setting has none if its name is taken. -/
def addSetting (arguments : Entries Payload) (marks : List Char) (start : String) (known : Names)
    (setting : FlaggedSetting) : Except FlagFault Names := do
  let word := nullWord arguments
  if setting.isNullable && word.toText?.isNone && !isSet arguments "_cli_hide_none_type" then
    throw (.badNullWord word)
  let full := start ++ casedName arguments setting.name
  let names ← namesOf arguments known.taken (if hyphenates arguments then hyphenated full else full)
  if names.isEmpty || known.taken.contains (.text full) then pure known
  else
    let flags ← addFlag known.flags (purposes arguments setting (← spellings marks names))
    pure { flags, taken := known.taken ++ names }

/-- The flags of settings that the arguments ask for. Faults are found in a fixed order. -/
def grammar (arguments : Entries Payload) (settings : List FlaggedSetting) :
    Except FlagFault Grammar := do
  if !canDouble (marksOption arguments) then throw (.badMarks (marksOption arguments))
  let start ← startOption arguments
  let marks ← readMarks arguments
  let start ← ((readStart arguments start).named "_CliArg").mapError .invalid
  let known ← settings.foldlM (addSetting arguments marks start) { flags := helpFlags marks }
  pure { marks, flags := known.flags }

end Flags

end PlanCompiler
