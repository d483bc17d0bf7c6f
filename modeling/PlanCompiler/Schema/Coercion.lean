import PlanCompiler.Text.Identifier
import PlanCompiler.Schema.Checked
import PlanCompiler.Schema.IntegerText

/-!
# Reading scalars

What a payload must look like to be taken for a text, a truth value, a number, and which other
payloads are converted. Texts are never made from anything else; truth values and numbers are also
read from numbers, truth values and texts.
-/

namespace PlanCompiler.Schema

open Text

/-- A text. -/
def readText : Payload → Checked String
  | .text value => .valid value
  | p => .fail .notText p

/-- A text without lone surrogates. -/
def readWholeText (p : Payload) : Checked String :=
  (readText p).ensure (fun value => isWhole value.toList) .brokenText p

/-- A text that is not empty. -/
def readNonEmpty (p : Payload) : Checked String :=
  (readWholeText p).ensure (fun value => !value.isEmpty) .tooShort p

/-- A text that is an identifier. -/
def readIdentifier (p : Payload) : Checked String :=
  (readWholeText p).ensure (fun value => isIdentifier value.toList) .badIdentifier p

/-- The texts read as true, in small letters. -/
def trueWords : List (List Char) :=
  ["1".toList, "t".toList, "true".toList, "y".toList, "yes".toList, "on".toList]

/-- The texts read as false, in small letters. -/
def falseWords : List (List Char) :=
  ["0".toList, "f".toList, "false".toList, "n".toList, "no".toList, "off".toList]

/-- The bound of a signed 64-bit integer. -/
def wordBound : Int := 0x8000000000000000

/-- Zero and one as truth values. -/
def booleanOfInt? (i : Int) : Option Bool :=
  if i = 0 then some false else if i = 1 then some true else none

/-- A truth value, or a zero, a one or a word that stands for one. -/
def readBoolean (p : Payload) : Checked Bool :=
  let orUnreadable (value? : Option Bool) : Checked Bool :=
    match value? with
    | some value => .valid value
    | none => .fail .unreadableBoolean p
  match p with
  | .boolean value => .valid value
  | .integer value =>
    if -wordBound ≤ value ∧ value < wordBound then orUnreadable (booleanOfInt? value)
    else .fail .notBoolean p
  | .double value =>
    match value.toInt? with
    | some i =>
      if -wordBound < i ∧ i < wordBound then orUnreadable (booleanOfInt? i)
      else .fail .notBoolean p
    | none => .fail .notBoolean p
  | .text value =>
    let word := value.toList.map Binary64.asciiLower
    if trueWords.contains word then .valid true
    else if falseWords.contains word then .valid false
    else .fail .unreadableBoolean p
  | _ => .fail .notBoolean p

/-- The number a text denotes. White space around it is dropped; underscores are allowed only
without it. -/
def numberOfText? (s : List Char) : Option Binary64 :=
  match Binary64.numeral? (trimOf isSpace s) with
  | some x => some x
  | none => (IntegerText.withoutUnderscores? s).bind Binary64.numeral?

/-- A number; integers, truth values and numerals are converted. -/
def readNumber : Payload → Checked Binary64
  | .double value => .valid value
  | .integer value =>
    match Binary64.ofInt? value with
    | some x => .valid x
    | none => .fail .notNumber (.integer value)
  | .boolean value => .valid (Binary64.ofRatio false (if value then 1 else 0) 1)
  | .text value =>
    match numberOfText? value.toList with
    | some x => .valid x
    | none => .fail .unreadableNumber (.text value)
  | p => .fail .notNumber p

/-- A number that is at least zero. -/
def readAmount (p : Payload) : Checked Binary64 :=
  (readNumber p).ensure (·.isNonNegative) .negative p

/-- What is wrong with a text that is not read as an integer. -/
def faultOfIntegerText : IntegerText.Fault → Fault
  | .unreadable => .unreadableInteger
  | .oversized => .oversizedInteger

/-- An integer; truth values, whole numbers and numerals are converted. -/
def readInteger (p : Payload) : Checked Int :=
  match p with
  | .integer value => .valid value
  | .boolean value => .valid (if value then 1 else 0)
  | .double value =>
    if !value.isFinite then .fail .notFinite p
    else match value.toInt? with
      | some i => if -wordBound < i ∧ i < wordBound then .valid i else .fail .oversizedInteger p
      | none => .fail .fractionalInteger p
  | .text value =>
    match IntegerText.read value.toList with
    | .ok i => .valid i
    | .error fault => .fail (faultOfIntegerText fault) p
  | _ => .fail .notInteger p

/-- A scalar as it is. What is none is reported once for each kind of scalar. -/
def readScalar (p : Payload) : Checked Scalar :=
  match p.toScalar? with
  | some s => .valid s
  | none => .invalid [⟨.notBoolean, [.field "bool"], p⟩, ⟨.notInteger, [.field "int"], p⟩,
      ⟨.notNumber, [.field "float"], p⟩, ⟨.notText, [.field "str"], p⟩]

/-- One of a fixed list of words. -/
def readChoice {α : Type} (choices : List (String × α)) (p : Payload) : Checked α :=
  match p with
  | .text value =>
    match Entries.get? choices value with
    | some choice => .valid choice
    | none => .fail (.unknownChoice (Entries.keys choices)) p
  | _ => .fail (.unknownChoice (Entries.keys choices)) p

/-- Null, or what `read` takes. -/
def readNullable {α : Type} (read : Payload → Checked α) : Payload → Checked (Option α)
  | .null => .valid none
  | p => (read p).map some

/-- A list whose items `read` takes. -/
def readList {α : Type} (read : Payload → Checked α) : Payload → Checked (List α)
  | .list items => Checked.all ((items.zipIdx).map fun (p, i) => (read p).under (.item i))
  | p => .fail .notList p

/-- A key with replacement characters for its lone surrogates. -/
def wholeKey (key : String) : String :=
  String.ofList (replaced key.toList)

/-- A table with free keys whose values `read` takes. Keys are made whole; of those that become
equal the first place and the last value count. -/
def readTable {α : Type} (read : Payload → Checked α) : Payload → Checked (Entries α)
  | .record fields =>
    (Checked.all (fields.map fun (key, p) =>
      ((read p).under (.field (wholeKey key))).map fun a => (wholeKey key, a))).map
        (Entries.putAll [])
  | p => .fail .notDictionary p

end PlanCompiler.Schema
