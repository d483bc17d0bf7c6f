import PlanCompiler.Number.Rounded
import PlanCompiler.Payload.Spelled

/-!
# Log messages

A message is a template with places for arguments. A place is a percent sign, then flags, a width
and a precision as far as they are given, and a letter that says how the argument is written; two
percent signs are one that stands for itself. The arguments are taken in turn; where a single record
is the argument, a place may name one of its fields between parentheses.

* `Supply`: the arguments not yet taken;
* `Place`: what a place asks for, and `Place.render`: the text that comes into it;
* `fill`: the message with all its places filled.
-/

namespace PlanCompiler.LogMessage

open Text

/-- Why a template is not filled. -/
inductive Fault
  | tooFew
  | tooMany
  | noRecord
  | unclosedName
  | unknownName (name : String)
  | unfinished
  | badAmount
  | widthTooBig
  | precisionTooBig
  | widthArgumentTooBig
  | precisionArgumentTooBig
  | unknownLetter (code index : Nat)
  | notNumber (letter : Char) (value : Payload)
  | notInteger (letter : Char) (value : Payload)
  | notReal (value : Payload)
  | notFinite (value : Binary64)
  | tooLarge
  | notCharacter
  | noSuchCharacter
  /-- More digits are asked for than an integer may have. -/
  | tooManyDigits
  /-- More characters are asked for than a message can hold. -/
  | tooLong
  /-- A value is not spelled out. -/
  | excess (excess : Excess)
  deriving DecidableEq, Repr

/-- The arguments of a message. -/
inductive Arguments
  | inTurn (values : List Payload)
  | named (fields : Entries Payload)
  deriving Repr

/-- The arguments of a list: one record with fields in it is looked up by name. -/
def Arguments.ofList : List Payload → Arguments
  | [.record (field :: fields)] => .named (field :: fields)
  | values => .inTurn values

/-- The arguments not yet taken. -/
inductive Supply
  | inTurn (values : List Payload)
  /-- One value that may still be taken. -/
  | one (value : Payload)
  /-- The one value has been taken. -/
  | spent
  deriving Repr

/-- The supply before anything is taken. -/
def Arguments.supply : Arguments → Supply
  | .inTurn values => .inTurn values
  | .named fields => .one (.record fields)

/-- The next argument. -/
def Supply.take : Supply → Except Fault (Payload × Supply)
  | .inTurn (value :: rest) => .ok (value, .inTurn rest)
  | .one value => .ok (value, .spent)
  | _ => .error .tooFew

/-- The flags of a place. -/
structure Flags where
  /-- Padding goes to the right. -/
  left : Bool := false
  /-- A number that is not negative has a plus sign … -/
  plus : Bool := false
  /-- … or a space in its place. -/
  blank : Bool := false
  /-- A prefix for the base, or a point in any case. -/
  alternate : Bool := false
  /-- Numbers are padded with zeros. -/
  zeros : Bool := false
  deriving DecidableEq, Repr

/-- What a place asks for. -/
structure Place where
  flags : Flags := {}
  width : Nat := 0
  precision : Option Nat := none
  letter : Char
  deriving DecidableEq, Repr

/-! ## Reading a place -/

/-- The name before the parenthesis that closes it, and the text after that. Parentheses inside it
come in pairs; `depth` of them are open. -/
def readName? (depth : Nat) (name : List Char) : List Char → Option (List Char × List Char)
  | [] => none
  | ')' :: rest =>
    if depth = 0 then some (name.reverse, rest) else readName? (depth - 1) (')' :: name) rest
  | '(' :: rest => readName? (depth + 1) ('(' :: name) rest
  | c :: rest => readName? depth (c :: name) rest

/-- The name of a field, if the place has one, and the supply that it leaves. -/
def takeName (arguments : Arguments) (supply : Supply) :
    List Char → Except Fault (List Char × Supply)
  | '(' :: rest =>
    match arguments with
    | .inTurn _ => .error .noRecord
    | .named fields =>
      match readName? 0 [] rest with
      | none => .error .unclosedName
      | some (name, rest) =>
        match Entries.get? fields (String.ofList name) with
        | some value => .ok (rest, .one value)
        | none => .error (.unknownName (String.ofList name))
  | s => .ok (s, supply)

/-- The flags at the head of a text. -/
def readFlags (flags : Flags) : List Char → Flags × List Char
  | '-' :: rest => readFlags { flags with left := true } rest
  | '+' :: rest => readFlags { flags with plus := true } rest
  | ' ' :: rest => readFlags { flags with blank := true } rest
  | '#' :: rest => readFlags { flags with alternate := true } rest
  | '0' :: rest => readFlags { flags with zeros := true } rest
  | s => (flags, s)

/-- The greatest width, and the greatest precision. -/
def widthLimit : Nat := 0x7FFFFFFFFFFFFFFF

@[inherit_doc widthLimit]
def precisionLimit : Nat := 0x7FFFFFFF

/-- The number at the head of a text, zero without digits. -/
def readDigits (s : List Char) : Nat × List Char :=
  (Binary64.natOfDigits (s.takeWhile Binary64.isDigit), s.dropWhile Binary64.isDigit)

/-- An argument that is a width or a precision. -/
def takeAmount (supply : Supply) : Except Fault (Int × Supply) := do
  match ← supply.take with
  | (.integer value, supply) => pure (value, supply)
  | (.boolean value, supply) => pure (if value then 1 else 0, supply)
  | _ => .error .badAmount

/-- Flags and width, the width as digits or as an argument; a negative one pads to the right. The
least argument has no counterpart among the widths, and pads nothing. -/
def takeWidth (flags : Flags) (supply : Supply) :
    List Char → Except Fault (Flags × Nat × List Char × Supply)
  | '*' :: rest => do
    let (width, supply) ← takeAmount supply
    let flags := { flags with left := flags.left || decide (width < 0) }
    if width.natAbs ≤ widthLimit then pure (flags, width.natAbs, rest, supply)
    else if width = -widthLimit - 1 then pure (flags, 0, rest, supply)
    else .error .widthArgumentTooBig
  | s =>
    let (width, rest) := readDigits s
    if widthLimit < width then .error .widthTooBig else .ok (flags, width, rest, supply)

/-- The precision after a point, as digits or as an argument; a negative one is zero. -/
def takePrecision (supply : Supply) :
    List Char → Except Fault (Option Nat × List Char × Supply)
  | '.' :: '*' :: rest => do
    let (precision, supply) ← takeAmount supply
    if -precisionLimit - 1 ≤ precision ∧ precision ≤ precisionLimit then
      pure (some precision.toNat, rest, supply)
    else .error .precisionArgumentTooBig
  | '.' :: s =>
    let (precision, rest) := readDigits s
    if precisionLimit < precision then .error .precisionTooBig
    else .ok (some precision, rest, supply)
  | s => .ok (none, s, supply)

/-- The text without a letter that once told the size of a number. -/
def afterSize : List Char → List Char
  | 'h' :: rest | 'l' :: rest | 'L' :: rest => rest
  | s => s

/-- The place at the head of a text, the text after it, and the supply that is left. -/
def takePlace (arguments : Arguments) (supply : Supply) (s : List Char) :
    Except Fault (Place × List Char × Supply) := do
  let (s, supply) ← takeName arguments supply s
  let (flags, s) := readFlags {} s
  let (flags, width, s, supply) ← takeWidth flags supply s
  let (precision, s, supply) ← takePrecision supply s
  match afterSize s with
  | letter :: rest => pure ({ flags, width, precision, letter }, rest, supply)
  | [] => .error .unfinished

/-! ## Filling a place -/

/-- The greatest number of characters that come into a place, and of digits that may be asked for
in an integer. -/
def sizeLimit : Nat := 0x40000000

@[inherit_doc sizeLimit]
def digitLimit : Nat := precisionLimit - 3

/-- A place is not too wide, and so many characters are not too many for it. -/
def Place.admits (p : Place) (count : Nat) : Except Fault Unit :=
  if sizeLimit < max p.width count then .error .tooLong else .ok ()

/-- A text in its place: padded with spaces to the width. -/
def Place.pad (p : Place) (s : List Char) : List Char :=
  let spaces := List.replicate (p.width - size s) ' '
  if p.flags.left then s ++ spaces else spaces ++ s

/-- A text in its place, cut to the precision. -/
def Place.renderText (p : Place) (s : List Char) : Except Fault (List Char) := do
  p.admits 0
  pure (p.pad (match p.precision with
    | some precision => kept ((codes s).take precision)
    | none => s))

/-- The sign of a number in its place. -/
def Place.sign (p : Place) (negative : Bool) : List Char :=
  if negative then ['-'] else if p.flags.plus then ['+'] else if p.flags.blank then [' '] else []

/-- A number in its place: zeros come between the sign or the prefix and the digits. -/
def Place.renderNumber (p : Place) (negative : Bool) (marker digits : List Char) : List Char :=
  let head := p.sign negative ++ marker
  if p.flags.zeros && !p.flags.left then
    head ++ List.replicate (p.width - head.length - digits.length) '0' ++ digits
  else p.pad (head ++ digits)

/-- The integer that a number stands for where a fraction may be dropped. -/
def integerOf (letter : Char) (value : Payload) : Except Fault Int :=
  match value with
  | .integer i => .ok i
  | .boolean b => .ok (if b then 1 else 0)
  | .double x =>
    match x with
    | .finite negative significand exponent =>
      let whole : Int := (Binary64.numerator significand exponent /
        Binary64.denominator exponent : Nat)
      .ok (if negative then -whole else whole)
    | _ => .error (.notFinite x)
  | _ => .error (.notNumber letter value)

/-- The integer that a value is. -/
def exactInteger (letter : Char) (value : Payload) : Except Fault Int :=
  match value with
  | .integer i => .ok i
  | .boolean b => .ok (if b then 1 else 0)
  | _ => .error (.notInteger letter value)

/-- The real number that a value stands for. -/
def realOf (value : Payload) : Except Fault Binary64 :=
  match value with
  | .double x => .ok x
  | .integer i =>
    match Binary64.ofInt? i with
    | some x => .ok x
    | none => .error .tooLarge
  | .boolean b => .ok (Binary64.ofRatio false (if b then 1 else 0) 1)
  | _ => .error (.notReal value)

/-- An integer in its place, in the digits of a base. The precision is the least number of digits,
and `most` their greatest number, if there is one. -/
def Place.renderInteger (p : Place) (base : Nat) (most : Option Nat) (marker : List Char)
    (i : Int) : Except Fault (List Char) := do
  let least := p.precision.getD 0
  if digitLimit < least then throw .tooManyDigits
  let digits := Nat.toDigits base i.natAbs
  if most.any (· < digits.length) then throw (.excess .digits)
  p.admits least
  pure (p.renderNumber (i < 0) (if p.flags.alternate then marker else [])
    (List.replicate (least - digits.length) '0' ++ digits))

/-- The precision of a real number. The greatest one leaves no room for the digit before the point,
and counts as none. -/
def Place.realPrecision (p : Place) (form : Binary64.Form) : Nat :=
  let precision := p.precision.getD 6
  if form = .scientific ∧ precision = precisionLimit then 0 else precision

/-- A real number in its place. A number of digits counts for the size unless trailing zeros
go. -/
def Place.renderReal (p : Place) (form : Binary64.Form) (x : Binary64) :
    Except Fault (List Char) := do
  let precision := p.realPrecision form
  let layout := Binary64.Layout.ofPrecision p.flags.alternate precision
  if x.isFinite && (form ≠ .general || p.flags.alternate) then
    p.admits precision
    pure (p.renderNumber x.isNegative [] (x.unsignedText form layout))
  else
    p.admits 0
    pure (p.renderNumber x.isNegative [] (x.unsignedText form { layout with zeros := 0 }))

/-- The code point that a value stands for: the only one of a text, or a number. -/
def codeOf (value : Payload) : Except Fault Nat :=
  match value with
  | .text s =>
    match codes s.toList with
    | [code] => .ok code
    | _ => .error .notCharacter
  | .integer i => if 0 ≤ i ∧ i < codeBound then .ok i.toNat else .error .noSuchCharacter
  | .boolean b => .ok (if b then 1 else 0)
  | _ => .error .notCharacter

/-- A text with an escape for every code point beyond ASCII. -/
def asciiOnly (s : List Char) : List Char :=
  (codes s).flatMap fun code => if code < 0x80 then [Char.ofNat code] else escapedCode code

/-- The fault of a letter that asks for nothing, at the given place of a template. -/
def unknownLetterAt (template : List Char) (place : Nat) : Fault :=
  .unknownLetter ((codes (template.drop place)).headD 0) (size (template.take place))

/-- Letters in capitals. -/
def inCapitals (s : List Char) : List Char :=
  s.map Char.toUpper

/-- The text that comes into a place for a value. The letter stands at the given place of the
template. Decimal digits are limited, octal and hexadecimal ones are not. -/
def Place.render (p : Place) (limits : Limits) (template : List Char) (place : Nat)
    (value : Payload) : Except Fault (List Char) :=
  match p.letter with
  | 's' => (value.spelledWithin limits).mapError .excess >>= p.renderText
  | 'r' => (value.literalWithin limits).mapError .excess >>= p.renderText
  | 'a' => (value.literalWithin limits).mapError .excess >>= fun s => p.renderText (asciiOnly s)
  | 'd' | 'i' | 'u' => integerOf p.letter value >>= p.renderInteger 10 (some limits.digits) []
  | 'o' => exactInteger p.letter value >>= p.renderInteger 8 none ['0', 'o']
  | 'x' => exactInteger p.letter value >>= p.renderInteger 16 none ['0', 'x']
  | 'X' => inCapitals <$> (exactInteger p.letter value >>= p.renderInteger 16 none ['0', 'x'])
  | 'e' => realOf value >>= p.renderReal .scientific
  | 'f' => realOf value >>= p.renderReal .fixed
  | 'g' => realOf value >>= p.renderReal .general
  | 'E' => inCapitals <$> (realOf value >>= p.renderReal .scientific)
  | 'F' => inCapitals <$> (realOf value >>= p.renderReal .fixed)
  | 'G' => inCapitals <$> (realOf value >>= p.renderReal .general)
  | 'c' => do
    let code ← codeOf value
    p.admits 0
    pure (p.pad (keptCode code))
  | _ => .error (unknownLetterAt template place)

/-! ## Filling a message -/

/-- Nothing may be left over of arguments that are taken in turn. -/
def finish : Supply → Except Fault (List Char)
  | .inTurn (_ :: _) => .error .tooMany
  | _ => .ok []

/-- The rest of a template with its places filled. The number bounds the recursion. -/
def fillFrom (limits : Limits) (arguments : Arguments) (template : List Char) :
    (bound : Nat) → Supply → List Char → Except Fault (List Char)
  | 0, _, _ => .ok []
  | _, supply, [] => finish supply
  | bound + 1, supply, '%' :: '%' :: rest =>
    (fillFrom limits arguments template bound supply rest).map ('%' :: ·)
  | bound + 1, supply, '%' :: s => do
    let (place, rest, supply) ← takePlace arguments supply s
    let (value, supply) ← supply.take
    let text ← place.render limits template (template.length - rest.length - 1) value
    pure (text ++ (← fillFrom limits arguments template bound supply rest))
  | bound + 1, supply, c :: rest =>
    (fillFrom limits arguments template bound supply rest).map (c :: ·)

/-- A template with its places filled. -/
def fill (limits : Limits) (template : List Char) (arguments : List Payload) :
    Except Fault (List Char) :=
  let named := Arguments.ofList arguments
  fillFrom limits named template (template.length + 1) named.supply template

end PlanCompiler.LogMessage
