import PlanCompiler.Json.Encoding
import PlanCompiler.Payload.Limits
import PlanCompiler.Text.Digit

/-!
# Reading JSON

From JSON text to a payload. A numeral with a point or an exponent is a floating-point number, any
other numeral an integer; of two members with one key the last value counts, at the place of the
first. Besides the standard's values the words `NaN`, `Infinity` and `-Infinity` are read.

A reading that fails says where it stopped: every step reports how many characters were left, and
`read` turns that into an offset. Numerals and nesting have limits; what lies beyond them is refused
when it is reached, without a place.

* `readValue`: one value and the text after it;
* `read`: a whole document.
-/

namespace PlanCompiler.Json

open Text

/-- JSON's own white space. -/
def isSeparator (c : Char) : Bool :=
  c == ' ' || c == '\t' || c == '\n' || c == '\r'

/-- The text after leading white space. -/
def skip (s : List Char) : List Char :=
  s.dropWhile isSeparator

/-- Why a text is not read: from some place on it is no JSON, or it cannot be taken as a whole. The
place is the number of characters left in a step, and an offset in the end. -/
inductive Flaw
  | malformed (place : Nat)
  | unreadable
  deriving DecidableEq, Repr

/-- What a step read and the text after it, or why it stopped. -/
abbrev Reading (α : Type) := Except Flaw (α × List Char)

/-- A step that stopped where so many characters were left. -/
def stopped {α : Type} (left : Nat) : Reading α :=
  .error (.malformed left)

/-- The number written by four hexadecimal digits. -/
def hexCode? (a b c d : Char) : Option Nat := do
  let a ← hexValue? a
  let b ← hexValue? b
  let c ← hexValue? c
  let d ← hexValue? d
  pure (((a * 16 + b) * 16 + c) * 16 + d)

/-- The character for a backslash followed by a letter. -/
def escaped? : Char → Option Char
  | '"' => some '"'
  | '\\' => some '\\'
  | '/' => some '/'
  | 'b' => some '\x08'
  | 'f' => some '\x0c'
  | 'n' => some '\n'
  | 'r' => some '\r'
  | 't' => some '\t'
  | _ => none

/-- A text, last character first, with one more code point. -/
def keptReversed (code : Nat) (done : List Char) : List Char :=
  (keptCode code).reverse ++ done

/-- The rest of a text after its opening quotation mark. `opening` is how many characters were left
at that mark, `done` what has been read, last character first. -/
def readText (opening : Nat) (done : List Char) : List Char → Reading String
  | [] => stopped opening
  | '"' :: rest => .ok (String.ofList done.reverse, rest)
  | ['\\'] => stopped opening
  | '\\' :: 'u' :: a :: b :: c :: d :: '\\' :: 'u' :: e :: f :: g :: h :: next :: rest =>
    match hexCode? a b c d with
    | none => stopped (rest.length + 12)
    | some high =>
      if isHighSurrogate high then
        match hexCode? e f g h with
        | none => stopped (rest.length + 6)
        | some low =>
          if isLowSurrogate low then
            readText opening (keptReversed (pairCode high low) done) (next :: rest)
          else
            readText opening (keptReversed high done)
              ('\\' :: 'u' :: e :: f :: g :: h :: next :: rest)
      else
        readText opening (keptReversed high done)
          ('\\' :: 'u' :: e :: f :: g :: h :: next :: rest)
  | '\\' :: 'u' :: a :: b :: c :: d :: next :: rest =>
    match hexCode? a b c d with
    | none => stopped (rest.length + 6)
    | some code => readText opening (keptReversed code done) (next :: rest)
  | '\\' :: 'u' :: rest => stopped (rest.length + 1)
  | '\\' :: c :: rest =>
    match escaped? c with
    | none => stopped (rest.length + 2)
    | some e => readText opening (e :: done) rest
  | c :: rest =>
    if c.toNat < 0x20 then stopped (rest.length + 1)
    else readText opening (c :: done) rest

/-- The digits at the head of a text and what follows them. -/
def digits (s : List Char) : List Char × List Char :=
  (s.takeWhile Binary64.isDigit, s.dropWhile Binary64.isDigit)

/-- The whole part of a numeral: a single zero, or digits that begin with another one. -/
def wholePart? : List Char → Option (List Char × List Char)
  | '0' :: rest => some (['0'], rest)
  | c :: rest => if Binary64.isDigit c then some (digits (c :: rest)) else none
  | [] => none

/-- The digits after a point, if a point and a digit follow. -/
def fractionPart (s : List Char) : List Char × List Char :=
  match s with
  | '.' :: c :: rest => if Binary64.isDigit c then digits (c :: rest) else ([], s)
  | _ => ([], s)

/-- The exponent, if an `e`, a sign or none, and a digit follow. -/
def exponentPart (s : List Char) : Option Int × List Char :=
  match s with
  | c :: rest =>
    if c = 'e' ∨ c = 'E' then
      let (negative, r) := Binary64.signed rest
      match digits r with
      | ([], _) => (none, s)
      | (ds, after) =>
        let n : Int := Binary64.natOfDigits ds
        (some (if negative then -n else n), after)
    else (none, s)
  | [] => (none, s)

/-- A numeral after its sign, if it has one. `opening` is how many characters were left before
it. -/
def readNumeral (limits : Limits) (opening : Nat) (negative : Bool) (s : List Char) :
    Reading Payload :=
  match wholePart? s with
  | none => stopped opening
  | some (whole, afterWhole) =>
    let (fraction, afterFraction) := fractionPart afterWhole
    let (exponent, rest) := exponentPart afterFraction
    if fraction.isEmpty && exponent.isNone then
      if limits.digits < whole.length then .error .unreadable
      else
        let n : Int := Binary64.natOfDigits whole
        .ok (.integer (if negative then -n else n), rest)
    else
      let significand := Binary64.natOfDigits (whole ++ fraction)
      let power := exponent.getD 0 - (fraction.length : Nat)
      .ok (.double (Binary64.ofDecimal negative significand power), rest)

/-- The words that stand for a value. -/
def wordValues : List (List Char × Payload) :=
  [("null".toList, .null), ("true".toList, .boolean true), ("false".toList, .boolean false),
    ("NaN".toList, .double .nan), ("Infinity".toList, .double (.infinite false)),
    ("-Infinity".toList, .double (.infinite true))]

/-- The text after the given word, if it begins with it. -/
def afterWord? (word s : List Char) : Option (List Char) :=
  if s.take word.length = word then some (s.drop word.length) else none

/-- A value that is neither a text nor a list nor a record. -/
def readPlain (limits : Limits) (s : List Char) : Reading Payload :=
  let word? := wordValues.findSome? fun entry =>
    (afterWord? entry.1 s).map fun rest => (entry.2, rest)
  match word? with
  | some found => .ok found
  | none => match s with
    | '-' :: rest => readNumeral limits s.length true rest
    | _ => readNumeral limits s.length false s

mutual

/-- One value and the text after it. The first number bounds the recursion, the second says how many
levels of lists and records may still be opened. -/
def readValue (limits : Limits) : (bound levels : Nat) → List Char → Reading Payload
  | 0, _, s => stopped s.length
  | bound + 1, levels, s =>
    match s, levels with
    | '"' :: rest, _ =>
      match readText s.length [] rest with
      | .ok (value, after) => .ok (.text value, after)
      | .error flaw => .error flaw
    | '[' :: _, 0 => .error .unreadable
    | '[' :: rest, levels + 1 =>
      match skip rest with
      | ']' :: after => .ok (.list [], after)
      | inner => readItems limits bound levels [] inner
    | '\x7b' :: _, 0 => .error .unreadable
    | '\x7b' :: rest, levels + 1 =>
      match skip rest with
      | '\x7d' :: after => .ok (.record [], after)
      | inner => readFields limits bound levels [] inner
    | _, _ => readPlain limits s

/-- The items of a list up to its closing bracket, those already read last first. -/
def readItems (limits : Limits) : (bound levels : Nat) → List Payload → List Char → Reading Payload
  | 0, _, _, s => stopped s.length
  | bound + 1, levels, done, s =>
    match readValue limits bound levels s with
    | .error flaw => .error flaw
    | .ok (item, after) =>
      match skip after with
      | ']' :: rest => .ok (.list (item :: done).reverse, rest)
      | ',' :: rest => readItems limits bound levels (item :: done) (skip rest)
      | rest => stopped rest.length

/-- The fields of a record up to its closing brace. -/
def readFields (limits : Limits) :
    (bound levels : Nat) → Entries Payload → List Char → Reading Payload
  | 0, _, _, s => stopped s.length
  | bound + 1, levels, done, s =>
    match s with
    | '"' :: quotedKey =>
      match readText s.length [] quotedKey with
      | .error flaw => .error flaw
      | .ok (key, afterKey) =>
        match skip afterKey with
        | ':' :: r =>
          match readValue limits bound levels (skip r) with
          | .error flaw => .error flaw
          | .ok (value, after) =>
            match skip after with
            | '\x7d' :: rest => .ok (.record (Entries.put done key value), rest)
            | ',' :: rest =>
              readFields limits bound levels (Entries.put done key value) (skip rest)
            | rest => stopped rest.length
        | r => stopped r.length
    | _ => stopped s.length

end

/-- A bound on the recursion that no text of this length exceeds. -/
def recursionBound (s : List Char) : Nat :=
  2 * s.length + 2

/-- The offset at which reading a document stopped, counted in code points. -/
def Flaw.from (document : List Char) : Flaw → Flaw
  | .malformed left => .malformed (size (document.take (document.length - left)))
  | .unreadable => .unreadable

/-- A text that holds one value and nothing but white space around it. -/
def readWhole (limits : Limits) (s : List Char) : Except Flaw Payload :=
  match readValue limits (recursionBound s) limits.depth (skip s) with
  | .error flaw => .error (flaw.from s)
  | .ok (value, after) =>
    match skip after with
    | [] => .ok value
    | rest => .error ((Flaw.malformed rest.length).from s)

/-- A document, in whatever encoding it is. -/
def read (limits : Limits) (document : List Char) : Except Flaw Payload :=
  match decode? document with
  | some s => readWhole limits s
  | none => .error .unreadable

end PlanCompiler.Json
