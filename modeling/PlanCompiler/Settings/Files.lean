import PlanCompiler.Entries
import PlanCompiler.Text.CodePoint
import PlanCompiler.Text.Run

/-!
# Files

What is known of the files of a machine, and where a path leads on it. The names of a path are
looked up one after another, so the first of them that leads nowhere decides what is wrong.

* `pathNames`, `tidyPath`, `directPath`: a path taken apart, and put together again;
* `FileTree.plain`: a machine with a system on it and nothing else;
* `FileTree.find`: what stands at the end of a path;
* `FileTree.openFault?`: why a file cannot be written.
-/

namespace PlanCompiler

/-! ## Paths -/

/-- The beginning of a path that starts at the root; two slashes stay two. -/
def pathStart (path : String) : String :=
  match path.toList.takeWhile (· = '/') with
  | [] => ""
  | [_, _] => "//"
  | _ => "/"

/-- The names in a path; one dot is none. -/
def pathNames (path : String) : List String :=
  ((Text.parts '/' path.toList).map String.ofList).filter fun name => name ≠ "" ∧ name ≠ "."

/-- Names without detours: two dots take back the name before them. -/
def withoutDetours (names : List String) : List String :=
  names.foldl (fun way name => if name = ".." then way.dropLast else way ++ [name]) []

/-- A path with one slash between its names. -/
def tidyPath (path : String) : String :=
  match pathStart path, pathNames path with
  | "", [] => "."
  | start, names => start ++ "/".intercalate names

/-- A path from the root, tidy and without detours. -/
def directPath (path : String) : String :=
  let start := if (pathStart path).isEmpty then "/" else pathStart path
  start ++ "/".intercalate (withoutDetours (pathNames path))

/-- How many bytes a name or a path takes. -/
def pathSize (path : String) : Nat :=
  (String.ofList (Text.toPlain path.toList)).utf8ByteSize

/-- The greatest size of a name, and of a path. -/
def nameLimit : Nat := 255

@[inherit_doc nameLimit]
def pathLimit : Nat := 4095

/-! ## Trees -/

/-- What stands under a name. -/
inductive FileKind
  | directory
  | regular
  | device
  deriving DecidableEq, Repr

/-- Why a path leads nowhere, or to no file. -/
inductive FileFault
  | missing
  | notDirectory
  | isDirectory
  | tooLong
  deriving DecidableEq, Repr

/-- What is known of the files of a machine. -/
structure FileTree where
  /-- What stands at the end of which names. -/
  known : List (List String × FileKind) := []
  /-- The names that lead to where paths begin that do not begin at the root. -/
  here : List String := []
  /-- The home directories of the users; that of the present one has no name. -/
  homes : Entries String := []
  deriving DecidableEq, Repr

namespace FileTree

/-- A machine with a system on it and nothing else. -/
def plain : FileTree where
  known :=
    ([["tmp"], ["dev"], ["etc"], ["var"], ["var", "log"], ["var", "tmp"], ["var", "lib"],
      ["var", "cache"], ["usr"], ["usr", "bin"], ["usr", "lib"], ["usr", "local"], ["home"],
      ["root"], ["opt"], ["bin"], ["sbin"], ["lib"], ["proc"], ["sys"], ["run"], ["mnt"], ["srv"],
      ["media"], ["boot"], ["dev", "shm"], ["here"]].map fun way => (way, .directory)) ++
    ([["etc", "passwd"], ["etc", "hosts"], ["etc", "hostname"], ["etc", "group"], ["bin", "sh"],
      ["usr", "bin", "env"]].map fun way => (way, .regular)) ++
    ([["dev", "null"], ["dev", "zero"], ["dev", "full"], ["dev", "random"],
      ["dev", "urandom"]].map fun way => (way, .device))
  here := ["here"]
  homes := [("", "/root"), ("root", "/root"), ("daemon", "/usr/sbin"), ("bin", "/bin"),
    ("sys", "/dev"), ("sync", "/bin"), ("games", "/usr/games"), ("man", "/var/cache/man"),
    ("lp", "/var/spool/lpd"), ("mail", "/var/mail"), ("news", "/var/spool/news"),
    ("uucp", "/var/spool/uucp"), ("proxy", "/bin"), ("www-data", "/var/www"),
    ("backup", "/var/backups"), ("list", "/var/list"), ("irc", "/run/ircd"),
    ("_apt", "/nonexistent"), ("nobody", "/nonexistent")]

/-- What stands at the end of the names from the root. -/
def kindAt? (tree : FileTree) (way : List String) : Option FileKind :=
  if way.isEmpty then some .directory else tree.known.lookup way

/-- The way that the names lead on from another. -/
def walk (tree : FileTree) (way : List String) : (names : List String) →
    Except FileFault (List String)
  | [] => .ok way
  | name :: rest =>
    match tree.kindAt? way with
    | none => .error .missing
    | some .directory =>
      if name = ".." then tree.walk way.dropLast rest
      else if nameLimit < pathSize name then .error .tooLong
      else tree.walk (way ++ [name]) rest
    | some _ => .error .notDirectory

/-- What stands at the end of a path. -/
def find (tree : FileTree) (path : String) : Except FileFault (Option FileKind) :=
  if pathLimit < pathSize (tidyPath path) then .error .tooLong
  else (tree.walk (if (pathStart path).isEmpty then tree.here else []) (pathNames path)).map
    tree.kindAt?

/-- Why a file cannot be written. Of a path that does not begin at the root nothing is known. -/
def openFault? (tree : FileTree) (path : String) : Option FileFault :=
  if (pathStart path).isEmpty then none
  else match tree.find (directPath path) with
    | .error fault => some fault
    | .ok (some .directory) => some .isDirectory
    | .ok _ => none

/-- A path with the home directory that it names by a tilde, if there is one. -/
def expanded? (tree : FileTree) (path : String) : Option String :=
  match pathStart path, pathNames path with
  | "", name :: rest =>
    match name.toList with
    | '~' :: user =>
      match Entries.get? tree.homes (String.ofList user) with
      | some home =>
        if home.toList.head? = some '~' then none
        else some ("/".intercalate ((if home.isEmpty ∧ rest.isEmpty then "/" else home) :: rest))
      | none => none
    | _ => some path
  | _, _ => some path

end FileTree

end PlanCompiler
