import PlanCompiler.Text.CodePoint

/-!
# The encoding of a JSON document

A JSON document may be encoded in UTF-8, or in UTF-16 or UTF-32 in either byte order. JSON begins
with two ASCII characters, so the places of the zero bytes among the first four tell which. Here a
document arrives as the text that its bytes spell in UTF-8; if they point to another encoding, they
are read again under that one.

* `detect`: the encoding of a document;
* `decode?`: its text, less a byte-order mark.
-/

namespace PlanCompiler.Json

open Text

/-- The order in which the bytes of a unit are written. -/
inductive ByteOrder
  | big
  | little
  deriving DecidableEq, Repr

/-- The encodings of a document. -/
inductive Encoding
  | utf8
  | utf16 (order : ByteOrder)
  | utf32 (order : ByteOrder)
  deriving DecidableEq, Repr

/-- The bytes of a text in UTF-8. -/
def bytesOf (s : List Char) : List Nat :=
  (toPlain s).flatMap fun c => (String.utf8EncodeChar c).map (·.toNat)

/-- The encoding that the first bytes of a document point to. -/
def Encoding.detect : (bytes : List Nat) → Encoding
  | 0 :: 0 :: _ :: _ :: _ => .utf32 .big
  | 0 :: _ :: _ :: _ :: _ => .utf16 .big
  | _ :: 0 :: 0 :: 0 :: _ => .utf32 .little
  | _ :: 0 :: _ :: _ :: _ => .utf16 .little
  | [0, _] => .utf16 .big
  | [_, 0] => .utf16 .little
  | _ => .utf8

/-- Two bytes as one number. -/
def ByteOrder.join (order : ByteOrder) (a b : Nat) : Nat :=
  match order with
  | .big => a * 0x100 + b
  | .little => b * 0x100 + a

/-- The 16-bit units of a sequence of bytes, if it does not end within one. -/
def units16? (order : ByteOrder) : List Nat → Option (List Nat)
  | [] => some []
  | a :: b :: rest => (units16? order rest).map (order.join a b :: ·)
  | [_] => none

/-- The 32-bit units of a sequence of bytes, if it does not end within one. -/
def units32? (order : ByteOrder) : List Nat → Option (List Nat)
  | [] => some []
  | a :: b :: c :: d :: rest =>
    let unit := match order with
      | .big => order.join a b * 0x10000 + order.join c d
      | .little => order.join c d * 0x10000 + order.join a b
    (units32? order rest).map (unit :: ·)
  | _ => none

/-- The code points of 16-bit units: a surrogate pair is one of them. -/
def codesOfUnits16 : List Nat → List Nat
  | [] => []
  | [unit] => [unit]
  | unit :: next :: rest =>
    if isHighSurrogate unit && isLowSurrogate next then pairCode unit next :: codesOfUnits16 rest
    else unit :: codesOfUnits16 (next :: rest)

/-- The code points of 32-bit units, if each is one. -/
def codesOfUnits32? (units : List Nat) : Option (List Nat) :=
  if units.all (· < codeBound) then some units else none

/-- A text without a byte-order mark in front. -/
def withoutMark : List Char → List Char
  | '\ufeff' :: rest => rest
  | s => s

/-- The text of a document, less a byte-order mark. -/
def decode? (document : List Char) : Option (List Char) :=
  match Encoding.detect (bytesOf (document.take 4)) with
  | .utf8 => some (withoutMark document)
  | .utf16 order => (units16? order (bytesOf document)).map fun units =>
      kept (codesOfUnits16 units)
  | .utf32 order => ((units32? order (bytesOf document)).bind codesOfUnits32?).map kept

end PlanCompiler.Json
