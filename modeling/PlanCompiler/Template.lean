import PlanCompiler.Text.Identifier

/-!
# Templates

Content with placeholders: an identifier between two pairs of braces. A text is cut into pieces
once, and both listing and filling its placeholders go through the pieces, so a value that looks
like a placeholder is never looked at again.

* `pieces`: the placeholders of a text and the characters between them;
* `placeholders`: the identifiers, each once, in order of first occurrence;
* `fill`: every placeholder that has a value replaced by it.
-/

namespace PlanCompiler.Template

open Text

/-- A part of a text: a character that belongs to no placeholder, or a placeholder. -/
inductive Piece
  | verbatim (c : Char)
  | placeholder (id : List Char)
  deriving DecidableEq, Repr

/-- A placeholder as it is written. -/
def brace (id : List Char) : List Char :=
  '\x7b' :: '\x7b' :: id ++ ['\x7d', '\x7d']

/-- The identifier of the placeholder with which a text begins. -/
def leading? : List Char → Option (List Char)
  | '\x7b' :: '\x7b' :: rest =>
    let id := rest.takeWhile isWordChar
    match id, rest.dropWhile isWordChar with
    | _ :: _, '\x7d' :: '\x7d' :: _ => some id
    | _, _ => none
  | _ => none

/-- The pieces of a text whose first `covered` characters belong to a placeholder already found. -/
def piecesAfter : (covered : Nat) → List Char → List Piece
  | _, [] => []
  | covered + 1, _ :: rest => piecesAfter covered rest
  | 0, c :: rest =>
    match leading? (c :: rest) with
    | some id => .placeholder id :: piecesAfter (id.length + 3) rest
    | none => .verbatim c :: piecesAfter 0 rest

/-- The pieces of a text, in order. -/
def pieces (content : List Char) : List Piece :=
  piecesAfter 0 content

/-- The identifier of a piece. -/
def Piece.id? : Piece → Option String
  | .verbatim _ => none
  | .placeholder id => some (String.ofList id)

/-- The identifiers of the placeholders of a text, each once, in order of first occurrence. -/
def placeholders (content : String) : List String :=
  ((pieces content.toList).filterMap Piece.id?).eraseDups

/-- The text of a piece. A placeholder without a value stays as it was written. -/
def Piece.fill (values : String → Option String) : Piece → List Char
  | .verbatim c => [c]
  | .placeholder id =>
    match values (String.ofList id) with
    | some text => text.toList
    | none => brace id

/-- The text with every placeholder replaced that has a value. -/
def fill (values : String → Option String) (content : String) : String :=
  String.ofList ((pieces content.toList).flatMap (Piece.fill values))

/-- Further paragraphs below a text, one on each line; empty ones are left out. -/
def withParagraphs (text : String) (paragraphs : List String) : String :=
  (paragraphs.filter (!·.isEmpty)).foldl (fun done paragraph => done ++ "\n" ++ paragraph) text

end PlanCompiler.Template
