import PlanCompiler.Payload.Entered
import PlanCompiler.Schema.Coercion
import PlanCompiler.Text.Digit

/-!
# Command lines

Settings named by words. A word that begins with a mark may be a flag: it gives a setting the value
that comes next, switches one on or off, or asks for help. The value may also stand in the word
itself, behind an equals sign, or right behind a flag of a single letter. After two dashes no word
is a flag any more. A setting that is named again has the last value.

* `Grammar.classify`: what each word is;
* `Grammar.cluster`: the flags that stand in one word;
* `Grammar.readClassified`: the values of the settings that the words name, and the words left over;
* `folded`: words with their flags in small letters.
-/

namespace PlanCompiler

/-- Why words name no settings. -/
inductive CommandLineFault
  /-- A flag asks how flags are used. -/
  | asksForHelp
  | noValue (flag : String)
  /-- A flag that takes no value has one. -/
  | spareValue (flag value : String)
  /-- The words that are neither flags nor values of flags. -/
  | unknown (words : List String)
  deriving DecidableEq, Repr

/-- What a fault says about itself. -/
def CommandLineFault.message : CommandLineFault → String
  | .asksForHelp => "help"
  | .noValue flag => "argument " ++ flag ++ ": expected one argument"
  | .spareValue flag value =>
    "argument " ++ flag ++ ": ignored explicit argument " ++
      String.ofList (Text.quoted value.toList)
  | .unknown words => "unrecognized arguments: " ++ " ".intercalate words

/-- Why something is no word. -/
inductive WordFault
  /-- It is no text, and has no first character … -/
  | notText (value : Payload)
  /-- … or only a first field … -/
  | keyed (value : Payload)
  /-- … or begins with something that is no text … -/
  | badStart (start : Payload)
  /-- … or begins with a mark. -/
  | markedItems (value : Payload)
  /-- It is no text, and letters cannot be made small in it. -/
  | notFoldable (value : Payload)
  /-- The last of several marks cannot stand twice where letters are made small. -/
  | unrepeatable (marks : List Char)
  /-- It is no text and left over; the words left over are counted from zero. -/
  | leftOver (index : Nat) (value : Payload)
  deriving DecidableEq, Repr

namespace CommandLine

/-- What a flag is for. -/
inductive Purpose
  | value (setting : String)
  | switch (setting : String) (state : Bool)
  | help
  deriving DecidableEq, Repr

/-- A flag. -/
structure Flag where
  /-- All its spellings, as messages name it. -/
  title : String
  purpose : Purpose
  deriving DecidableEq, Repr

/-- A value goes with the flag. -/
def Flag.takesValue (flag : Flag) : Bool :=
  match flag.purpose with
  | .value _ => true
  | _ => false

/-- How words are read. -/
structure Grammar where
  /-- The characters with which flags begin. -/
  marks : List Char
  /-- The flags under their spellings. -/
  flags : Entries Flag
  deriving Repr

/-- What a word is. -/
inductive Word
  | plain
  /-- A flag as it is spelled, and the text behind it, if there is one. -/
  | flag (spelling : List Char) (flag : Flag) (text : Option (List Char))
  /-- Neither a flag nor a value. -/
  | idle
  deriving DecidableEq, Repr

/-! ## Words -/

/-- Two dashes, after which no word is a flag. -/
def separator : String := "--"

/-- One or more decimal digits. -/
def isDigits (s : List Char) : Bool :=
  !s.isEmpty && s.all fun c => (Text.digitValue? c).isSome

/-- A number below zero, which is a value although it begins with a dash. A line may end after
it. -/
def isNegativeNumber (word : List Char) : Bool :=
  match word with
  | '-' :: rest =>
    let rest := if rest.getLast? = some '\n' then rest.dropLast else rest
    let whole := rest.takeWhile (· ≠ '.')
    match rest.drop whole.length with
    | [] => isDigits whole
    | _ :: fraction => (whole.isEmpty || isDigits whole) && isDigits fraction
  | _ => false

namespace Grammar

/-- The flag with a spelling. -/
def find? (g : Grammar) (spelling : List Char) : Option Flag :=
  Entries.get? g.flags (String.ofList spelling)

/-- Some flag looks like a number below zero. -/
def hasNumericFlags (g : Grammar) : Bool :=
  (Entries.keys g.flags).any fun spelling => isNegativeNumber spelling.toList

/-- The flag before the first equals sign of a word, and the text behind it. -/
def beforeEquals? (g : Grammar) (word : List Char) : Option Word :=
  let spelling := word.takeWhile (· ≠ '=')
  match word.drop spelling.length with
  | _ :: text => (g.find? spelling).map fun flag => .flag spelling flag (some text)
  | [] => none

/-- The flag of a single letter at the beginning of a word, and the text behind it. -/
def singleLetter? (g : Grammar) (word : List Char) : Option Word :=
  match word with
  | mark :: letter :: text =>
    if g.marks.contains letter then none
    else (g.find? [mark, letter]).map fun flag => .flag [mark, letter] flag (some text)
  | _ => none

/-- What a text is. -/
def classifyText (g : Grammar) (word : List Char) : Word :=
  if !(word.head?.any fun c => g.marks.contains c) then .plain
  else match g.find? word with
    | some flag => .flag word flag none
    | none =>
      if word.length = 1 then .plain
      else match (g.beforeEquals? word).or (g.singleLetter? word) with
        | some found => found
        | none =>
          if (isNegativeNumber word && !g.hasNumericFlags) || word.contains ' ' then .plain
          else .idle

/-- What a word is that may be no text. An empty one is a value. -/
def classifyOne (g : Grammar) (word : Payload) : Except WordFault Word :=
  if !word.isFilled then .ok .plain
  else match word with
    | .text text => .ok (g.classifyText text.toList)
    | .list (.text start :: _) =>
      if Text.occursIn start.toList g.marks then .error (.markedItems word) else .ok .plain
    | .list (start :: _) => .error (.badStart start)
    | .record _ => .error (.keyed word)
    | _ => .error (.notText word)

/-- What each word is. -/
def classify (g : Grammar) : List Payload → Except WordFault (List (Payload × Word))
  | [] => .ok []
  | word :: rest =>
    if word = .text separator then
      .ok ((word, .idle) :: rest.map fun other => (other, .plain))
    else match g.classifyOne word with
      | .error fault => .error fault
      | .ok kind => (g.classify rest).map ((word, kind) :: ·)

/-! ## Values -/

/-- The flags that stand in one word, and the text behind the last of them. Flags of a single letter
that take no value may stand one behind another. -/
def cluster (g : Grammar) (spelling : List Char) (flag : Flag) :
    Option (List Char) → Except CommandLineFault (List Flag × Option (List Char))
  | none => .ok ([flag], none)
  | some text => behind spelling flag text
where
  /-- `cluster` for a flag with text behind it. -/
  behind (spelling : List Char) (flag : Flag) (text : List Char) :
      Except CommandLineFault (List Flag × Option (List Char)) :=
    match text with
    | letter :: rest =>
      let isSingle := !((spelling.drop 1).head?.any fun c => g.marks.contains c)
      let next := spelling.take 1 ++ [letter]
      if flag.takesValue then .ok ([flag], some text)
      else match if isSingle then g.find? next else none with
        | none => .error (.spareValue flag.title (String.ofList text))
        | some follower =>
          if rest.isEmpty then .ok ([flag, follower], none)
          else (behind next follower rest).map fun (flags, last) => (flag :: flags, last)
    | [] => if flag.takesValue then .ok ([flag], some []) else .error (.spareValue flag.title "")

/-- What the flags of one word do in turn; the value is for the last of them. -/
def perform (value : Payload) : List Flag → Except CommandLineFault (Entries Payload)
  | [] => .ok []
  | flag :: rest =>
    match flag.purpose with
    | .help => .error .asksForHelp
    | .switch setting state => (perform value rest).map ((setting, .boolean state) :: ·)
    | .value setting => (perform value rest).map ((setting, value) :: ·)

/-- The value that stands behind a flag in one word with it; two dashes are an empty list. -/
def attached (text : List Char) : Payload :=
  .text (if text = separator.toList then "[]" else String.ofList text)

/-- An entry of a list as it stands in the text of the list. Numbers and a few words stand as they
are. -/
def listEntry (text : String) : List Char :=
  let entry := Text.trim text.toList
  let isBare := (Schema.numberOfText? entry).isSome || entry.head? = some '"' ||
    ["true", "false", "null"].any fun word => word.toList = entry
  if isBare then entry else '"' :: entry ++ ['"']

/-- The text of a list. It ends before the first entry that is no text; one that is blank is passed
over. -/
def listText (items : List Payload) : String :=
  let texts := (items.map Payload.toText?).takeWhile (·.isSome) |>.filterMap id
  let entries := (texts.filter fun text => !text.toList.all Text.isBlank).map listEntry
  String.ofList ('[' :: Text.joined [','] entries ++ [']'])

/-- The value that a word is. A list is its own text. -/
def following : Payload → Payload
  | .list items => .text (listText items)
  | word => word

/-- The values that words give to settings in turn, and the words that are left over. -/
def readClassified (g : Grammar) :
    List (Payload × Word) → Except CommandLineFault (Entries Payload × List Payload)
  | [] => .ok ([], [])
  | (_, .flag spelling flag text) :: rest =>
    match g.cluster spelling flag text with
    | .error fault => .error fault
    | .ok (flags, some text) => do
      let found ← perform (attached text) flags
      (g.readClassified rest).map fun (more, others) => (found ++ more, others)
    | .ok (flags, none) =>
      match flags.getLast?.filter (·.takesValue), rest with
      | none, rest => do
        let found ← perform .null flags
        (g.readClassified rest).map fun (more, others) => (found ++ more, others)
      | some _, (word, .plain) :: after => do
        let found ← perform (following word) flags
        (g.readClassified after).map fun (more, others) => (found ++ more, others)
      | some last, _ => .error (.noValue last.title)
  | (word, _) :: rest => (g.readClassified rest).map fun (found, others) => (found, word :: others)

end Grammar

/-! ## Small letters -/

/-- The beginning of a word that may be a flag, and the text behind it. The beginning is the marks,
the last of them once or twice, and all up to a blank or an equals sign. -/
def flagPart? (marks word : List Char) : Option (List Char × List Char) :=
  let isInner (c : Char) : Bool := !Text.isBlank c && c ≠ '='
  let initial := marks.dropLast
  let rest := word.drop initial.length
  let last := (rest.take 2).takeWhile fun c => marks.getLast? = some c
  let name := (rest.drop last.length).takeWhile isInner
  let isFlag := initial.isPrefixOf word && !last.isEmpty &&
    (!name.isEmpty || (last.length = 2 && last.all isInner))
  if isFlag then some (word.splitAt (initial.length + last.length + name.length)) else none

/-- A word with the letters of its flag made small, and without what follows its first line. A word
that is no flag stays as it is. -/
def foldedText (marks word : List Char) : List Char :=
  match flagPart? marks word with
  | some (flag, text) => Text.lower flag ++ text.takeWhile (· ≠ '\n')
  | none => word

/-- The text of a word. Something empty is an empty text. -/
def textOf (word : Payload) : Except WordFault (List Char) :=
  if !word.isFilled then .ok []
  else match word with
    | .text text => .ok text.toList
    | word => .error (.notFoldable word)

/-- The last of several marks can stand twice. -/
def canRepeat (marks : List Char) : Bool :=
  marks.length ≤ 1 || !(marks.getLast?.any fun c => ['*', '+', '?'].contains c)

/-- Words with the letters of their flags made small. After two dashes words stay as they are. -/
def folded (marks : List Char) (words : List Payload) : Except WordFault (List Payload) := do
  let texts ← words.mapM textOf
  let before := texts.takeWhile (· ≠ separator.toList)
  if !before.isEmpty && !canRepeat marks then throw (.unrepeatable marks)
  let after := texts.drop before.length
  pure ((before.map (foldedText marks) ++ after).map fun text => .text (String.ofList text))

end CommandLine

end PlanCompiler
