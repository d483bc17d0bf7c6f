import PlanCompiler.Settings.Files
import PlanCompiler.Settings.Flags

/-!
# Variables

Settings are looked up among the environment variables. Some arguments are no settings but say how
that is done: what stands before the name of a setting in the name of its variable, whether capitals
and small letters differ, which variables count as empty or as null, and which words of a command
line name settings as well.

* `readVariables`: the environment variables that a record stands for;
* `Lookup.ofArguments`: the way of looking up that the arguments ask for, if there is one;
* `Lookup.find?`: the variable of a setting.
-/

namespace PlanCompiler

/-! ## Variables -/

/-- Why a field of a record is no environment variable. -/
inductive VariableFault
  | notText (value : Payload)
  | holdsNull
  | badName
  | noName
  deriving DecidableEq, Repr

/-- What is wrong with a field as an environment variable. -/
def variableFault? (name : String) (value : Payload) : Option VariableFault :=
  match value with
  | .text text =>
    if (name ++ text).toList.contains '\x00' then some .holdsNull
    else if name.toList.contains '=' then some .badName
    else if name.isEmpty then some .noName
    else none
  | p => some (.notText p)

/-- The environment variables that a record stands for. -/
def readVariables : Entries Payload → Except VariableFault (Entries String)
  | [] => .ok []
  | (name, value) :: rest =>
    match variableFault? name value with
    | some fault => .error fault
    | none => (readVariables rest).map ((name, (value.toText?).getD "") :: ·)

/-! ## Options -/

/-- How settings are looked up. -/
structure Lookup where
  /-- What stands before the name of a setting in the name of its variable. -/
  start : String := ""
  distinguishesCase : Bool := true
  skipsEmpty : Bool := false
  /-- The text that stands for null. -/
  nullWord : Option String := none
  /-- The settings that a command line names. They win over all others. -/
  named : Entries Payload := []
  deriving DecidableEq, Repr

/-- Why the arguments ask for no way of looking up. -/
inductive OptionFault
  /-- What should be sources and arguments are not two things … -/
  | notPair (value : Payload)
  /-- … or the sources are not several … -/
  | notSources (value : Payload)
  /-- … or one of them is no source. -/
  | notSource (value : Payload)
  /-- The number of splits is none. -/
  | badSplit (value : Payload)
  /-- What should stand before names has no length … -/
  | unsizedStart (value : Payload)
  /-- … or has one and is no text. -/
  | badStart (value : Payload)
  /-- Files or directories are neither named by a text nor by several. -/
  | badPaths (value : Payload)
  /-- One of several files or directories is not named by a text. -/
  | badPath (value : Payload)
  /-- A path begins with the home directory of someone unknown. -/
  | unknownHome
  | unreadable (path : String) (cause : FileFault)
  /-- Something else stands in the place of a directory. -/
  | noDirectory (kind : FileKind)
  /-- The number of directories to look into is none … -/
  | badDepth (value : Payload)
  /-- … or is no integer of 64 bits. -/
  | unusableDepth (value : Payload)
  /-- There are no flags. -/
  | flag (fault : FlagFault)
  /-- The words of a command line are no list … -/
  | badWords (value : Payload)
  /-- … or one of them is no word. -/
  | word (fault : WordFault)
  /-- A command line names no settings, and that is the end. -/
  | stopped (cause : CommandLineFault)
  /-- A command line names no settings. -/
  | refused (cause : CommandLineFault)
  deriving DecidableEq, Repr

namespace Lookup

open Options

/-- What stands before names stands before those of settings; it may be meant for others only. -/
def startsSettings (arguments : Entries Payload) : Bool :=
  match option? arguments "_env_prefix_target" with
  | none | some (.text "variable") | some (.text "all") => true
  | _ => false

/-- Sources that are given ready-made are none. -/
def noSources (value : Payload) : Except OptionFault Unit :=
  match value.items? with
  | some [sources, _] =>
    if !sources.isFilled then .ok ()
    else match sources.items? with
      | none => .error (.notSources sources)
      | some items => .error (.notSource (items.headD .null))
  | _ => .error (.notPair value)

/-- The paths that an option names: one by a text, or several. -/
def pathItems (value : Payload) : Except OptionFault (List Payload) :=
  match value with
  | .text path => .ok [.text path]
  | p => match p.items? with
    | some items => .ok items
    | none => .error (.badPaths p)

/-- A path with the home directory in it. -/
def located (tree : FileTree) : Payload → Except OptionFault String
  | .text path => match tree.expanded? path with
    | some path => .ok path
    | none => .error .unknownHome
  | p => .error (.badPath p)

/-- What stands at the end of a path, if anything does. -/
def found? (tree : FileTree) (path : String) : Except OptionFault (Option FileKind) :=
  match tree.find path with
  | .ok kind => .ok kind
  | .error .tooLong => .error (.unreadable (tidyPath path) .tooLong)
  | .error _ => .ok none

/-- Where files with more variables are looked for unless the arguments say it. -/
def defaultFiles : Payload := .text ".env"

/-- How many directories to look into, one of them at least, is an integer that a word holds. -/
def checkDepth (arguments : Entries Payload) : Except OptionFault Unit :=
  match option? arguments "_env_file_depth" with
  | none | some (.boolean _) => .ok ()
  | some (.integer depth) =>
    if depth < Schema.wordBound then .ok () else .error (.unusableDepth (.integer depth))
  | some (.double depth) =>
    if depth.isNonPositive then .ok () else .error (.unusableDepth (.double depth))
  | some depth => .error (.badDepth depth)

/-- The files with more variables can be looked for. None of them is there. -/
def checkFiles (tree : FileTree) (arguments : Entries Payload) : Except OptionFault Unit :=
  match (Entries.get? arguments "_env_file").getD defaultFiles with
  | .null => .ok ()
  | files => do
    let kinds ← (← pathItems files).mapM fun path => located tree path >>= found? tree
    if kinds.isEmpty then pure () else checkDepth arguments

/-- The directories with secrets are directories if they are there. No secrets are in them. -/
def checkDirectories (tree : FileTree) (arguments : Entries Payload) : Except OptionFault Unit :=
  match option? arguments "_secrets_dir" with
  | none => .ok ()
  | some directories => do
    let paths ← (← pathItems directories).mapM (located tree)
    let kinds ← paths.mapM (found? tree)
    match (kinds.filterMap id).find? (· ≠ .directory) with
    | some kind => throw (.noDirectory kind)
    | none => pure ()

/-- The words of a command line. A truth value stands for none. -/
def wordsOf : Payload → Except OptionFault (List Payload)
  | .boolean _ => .ok []
  | .list words => .ok words
  | p => if isNumeric p && !p.isFilled then .ok [] else .error (.badWords p)

/-- The words of a command line with flags in small letters, if the arguments ask for that. -/
def foldedWords (arguments : Entries Payload) (marks : List Char) (words : List Payload) :
    Except WordFault (List Payload) :=
  if option? arguments "_case_sensitive" = some (.boolean false) then
    CommandLine.folded marks words
  else .ok words

/-- A command line that names no settings is the end of everything, unless the arguments say
otherwise. -/
def ofCommandLineFault (arguments : Entries Payload) (cause : CommandLineFault) : OptionFault :=
  if cause ≠ .asksForHelp && (option? arguments "_cli_exit_on_error").any (!·.isFilled) then
    .refused cause
  else .stopped cause

/-- The texts of words that are left over; the first of the given ones has the given index. -/
def leftOver (index : Nat) : List Payload → Except WordFault (List String)
  | [] => .ok []
  | .text word :: rest => (leftOver (index + 1) rest).map (word :: ·)
  | p :: _ => .error (.leftOver index p)

/-- No words are left over, unless the arguments allow it. -/
def checkLeftOver (arguments : Entries Payload) (others : List Payload) :
    Except OptionFault Unit :=
  if others.isEmpty || isSet arguments "_cli_ignore_unknown_args" then .ok ()
  else match leftOver 0 others with
    | .ok words => .error (ofCommandLineFault arguments (.unknown words))
    | .error fault => .error (.word fault)

/-- The settings that a command line names. One without a value is not named. -/
def readWords (settings : List FlaggedSetting) (arguments : Entries Payload) :
    Except OptionFault (Entries Payload) :=
  match option? arguments "_cli_parse_args" with
  | none => .ok []
  | some words => do
    let grammar ← (Flags.grammar arguments settings).mapError .flag
    let words ← (foldedWords arguments grammar.marks (← wordsOf words)).mapError .word
    let classified ← (grammar.classify words).mapError .word
    let (found, others) ←
      (grammar.readClassified classified).mapError (ofCommandLineFault arguments)
    checkLeftOver arguments others
    let given := (Entries.putAll [] found).filter fun entry => entry.2 ≠ .null
    pure (Entries.mapValues (fun p => if p = Flags.nullWord arguments then .null else p) given)

/-- The way of looking up settings that the arguments ask for. Options are used, and faults in them
found, in a fixed order. -/
def ofArguments (tree : FileTree) (settings : List FlaggedSetting) (arguments : Entries Payload) :
    Except OptionFault Lookup := do
  let start? := option? arguments "_env_prefix"
  match option? arguments "_env_nested_max_split" with
  | some p => if p.isFilled && !isNumeric p then throw (.badSplit p)
  | none => pure ()
  match start?.filter isNumeric with
  | some p => throw (.unsizedStart p)
  | none => checkFiles tree arguments
  let named ← readWords settings arguments
  match start?.filter fun p => p.toText?.isNone && startsSettings arguments with
  | some p => throw (.badStart p)
  | none => checkDirectories tree arguments
  pure
    { start := ((text? arguments "_env_prefix").filter fun _ => startsSettings arguments).getD ""
      distinguishesCase := casesDiffer arguments
      skipsEmpty := isSet arguments "_env_ignore_empty"
      nullWord := text? arguments "_env_parse_none_str"
      named }

/-- A name as it is compared. -/
def normal (l : Lookup) (name : String) : List Char :=
  if l.distinguishesCase then name.toList else Text.lower name.toList

/-- The value of a variable. -/
def valueOf (l : Lookup) (text : String) : Payload :=
  if l.nullWord = some text then .null else .text text

/-- The variable of a setting. Of several whose names do not differ the last one counts. -/
def find? (l : Lookup) (environment : Entries String) (name : String) : Option Payload :=
  let found := environment.filter fun entry =>
    l.normal entry.1 = l.normal (l.start ++ name) && !(l.skipsEmpty && entry.2.isEmpty)
  found.getLast?.map fun entry => l.valueOf entry.2

end Lookup

end PlanCompiler
