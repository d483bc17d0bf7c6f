import PlanCompiler.Payload.Limits
import PlanCompiler.Text.Digit
import PlanCompiler.Text.Letter.Hidden
import PlanCompiler.Text.Run

/-!
# Payloads spelled out

The text of a payload in a message or a log line. A text on its own stands as it is; inside a list
or a record it is quoted: single quotes, or double ones when the text holds a single quote and no
double one, and code points that do not print are escaped.

* `quoted`: a text between quotation marks;
* `literal`: a payload with every text quoted;
* `spelled`: the same, but a text on its own as it is;
* `literalWithin`, `spelledWithin`: the same of a payload within limits, and nothing of any other.
-/

namespace PlanCompiler.Text

/-! ## Quoted texts -/

open Letter

/-- The quotation mark for a text. -/
def quoteFor (s : List Char) : Char :=
  if s.contains '\'' && !s.contains '"' then '"' else '\''

/-- A code point as an escape. -/
def escapedCode (code : Nat) : List Char :=
  if code < 0x100 then '\\' :: 'x' :: hex 2 code
  else if code < 0x10000 then '\\' :: 'u' :: hex 4 code
  else '\\' :: 'U' :: hex 8 code

/-- One code point between the given quotation marks. -/
def quotedCode (quote : Char) (code : Nat) : List Char :=
  if code = quote.toNat ∨ code = '\\'.toNat then ['\\', Char.ofNat code]
  else if code = '\n'.toNat then ['\\', 'n']
  else if code = '\r'.toNat then ['\\', 'r']
  else if code = '\t'.toNat then ['\\', 't']
  else if inTable hiddenRanges code then escapedCode code
  else [Char.ofNat code]

/-- The text between quotation marks. -/
def quoted (s : List Char) : List Char :=
  let quote := quoteFor s
  quote :: (codes s).flatMap (quotedCode quote) ++ [quote]

end PlanCompiler.Text

namespace PlanCompiler.Payload

open Text

/-! ## Payloads -/

mutual

/-- A payload spelled out, texts between quotation marks. -/
def literal : Payload → List Char
  | .null => "None".toList
  | .boolean value => (if value then "True" else "False").toList
  | .integer value => (toString value).toList
  | .double value => value.text
  | .text value => quoted value.toList
  | .list items => '[' :: joined ", ".toList (literalItems items) ++ [']']
  | .record fields => '\x7b' :: joined ", ".toList (literalFields fields) ++ ['\x7d']

/-- The items of a list, each spelled out. -/
def literalItems : List Payload → List (List Char)
  | [] => []
  | item :: rest => literal item :: literalItems rest

/-- The fields of a record, each as a quoted key and its value. -/
def literalFields : List (String × Payload) → List (List Char)
  | [] => []
  | (key, value) :: rest =>
    (quoted key.toList ++ ": ".toList ++ literal value) :: literalFields rest

end

/-- A payload spelled out; a text on its own stands as it is. -/
def spelled : Payload → List Char
  | .text value => value.toList
  | p => literal p

/-- `literal` of a payload within the limits. Every value in it takes a level, a scalar too. -/
def literalWithin (limits : Limits) (p : Payload) : Except Excess (List Char) :=
  p.within limits 1 p.literal

/-- `spelled` of a payload within the limits; a text on its own has none. -/
def spelledWithin (limits : Limits) : Payload → Except Excess (List Char)
  | .text value => .ok value.toList
  | p => p.literalWithin limits

/-- A payload is a text, or within the limits. -/
def IsSpellable (limits : Limits) (p : Payload) : Prop :=
  p.toText?.isSome ∨ p.Fits limits 1

theorem spelledWithin_eq_ok_iff {limits : Limits} {p : Payload} {s : List Char} :
    p.spelledWithin limits = .ok s ↔ p.IsSpellable limits ∧ s = p.spelled := by
  cases p with
  | text value => simp [spelledWithin, IsSpellable, toText?, spelled, eq_comm]
  | _ => simp [spelledWithin, literalWithin, within_eq_ok_iff, IsSpellable, toText?, spelled]

end PlanCompiler.Payload
