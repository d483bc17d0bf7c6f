import PlanCompiler.Payload.Limits
import PlanCompiler.Text.CodePoint
import PlanCompiler.Text.Digit
import PlanCompiler.Text.Run

/-!
# Writing JSON on one line

Payloads as JSON text of printable ASCII characters: whatever a text contains, its written form has
no line break, no control character and no character beyond `~`.

* `escapeCode`: one code point of a text;
* `write`: a payload, a space after every comma and colon;
* `writeWithin`: the same of a payload within limits, and nothing of any other.
-/

namespace PlanCompiler.Json

open Text

/-- A UTF-16 code unit as an escape. -/
def unitEscape (unit : Nat) : List Char :=
  '\\' :: 'u' :: hex 4 unit

/-- The code points with an escape of their own, and its letter. -/
def shortEscapes : List (Nat × Char) :=
  [(0x22, '"'), (0x5C, '\\'), (0x0A, 'n'), (0x0D, 'r'), (0x09, 't'), (0x08, 'b'), (0x0C, 'f')]

/-- A code point inside quotation marks: printable ASCII as it is, the rest by escapes, and what
lies beyond the basic plane by its two surrogates. -/
def escapeCode (code : Nat) : List Char :=
  match shortEscapes.lookup code with
  | some letter => ['\\', letter]
  | none =>
    if 0x20 ≤ code ∧ code ≤ 0x7E then [Char.ofNat code]
    else if code < 0x10000 then unitEscape code
    else unitEscape (highHalf code) ++ unitEscape (lowHalf code)

/-- A text between quotation marks. -/
def writeText (s : String) : List Char :=
  '"' :: (codes s.toList).flatMap escapeCode ++ ['"']

/-- A number; infinities and not a number as words. -/
def writeDouble : Binary64 → List Char
  | .nan => "NaN".toList
  | .infinite negative => (if negative then "-Infinity" else "Infinity").toList
  | x => x.text

mutual

/-- A payload as JSON text, however long its integers are and however deeply it is nested.
`writeWithin` is the writer that refuses what goes beyond its limits. -/
def write : Payload → List Char
  | .null => "null".toList
  | .boolean value => (if value then "true" else "false").toList
  | .integer value => (toString value).toList
  | .double value => writeDouble value
  | .text value => writeText value
  | .list items => '[' :: joined ", ".toList (writeItems items) ++ [']']
  | .record fields => '\x7b' :: joined ", ".toList (writeFields fields) ++ ['\x7d']

/-- The items of a list, each as JSON text. -/
def writeItems : List Payload → List (List Char)
  | [] => []
  | item :: rest => write item :: writeItems rest

/-- The fields of a record, each as key, colon and value. -/
def writeFields : List (String × Payload) → List (List Char)
  | [] => []
  | (key, value) :: rest => (writeText key ++ ": ".toList ++ write value) :: writeFields rest

end

/-- A payload within the limits as JSON text. A scalar takes no level of its own. -/
def writeWithin (limits : Limits) (p : Payload) : Except Excess (List Char) :=
  p.within limits 0 (write p)

theorem writeWithin_eq_ok_iff {limits : Limits} {p : Payload} {s : List Char} :
    writeWithin limits p = .ok s ↔ p.Fits limits 0 ∧ s = write p :=
  Payload.within_eq_ok_iff

end PlanCompiler.Json
