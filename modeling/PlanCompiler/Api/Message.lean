import PlanCompiler.Json.Reader
import PlanCompiler.Payload.Stored
import PlanCompiler.Schema.Issue

/-!
# Requests and replies

A request as it reaches the service, and the reply to it. The body of a request is a text, or a
payload that stands for its own JSON text; a header says whether it is to be read as JSON. The
header names a type and a subtype with a slash between them, and parameters after a semicolon;
capitals, and blanks around the type, make no difference.

* `MediaType.read?`, `MediaType.isJson`: the media type that a header names, and whether it is JSON;
* `Request`, `Reply`: what comes in and what goes out.
-/

namespace PlanCompiler.Api

open Schema

/-! ## Media types -/

/-- A media type without its parameters. -/
structure MediaType where
  type : List Char
  subtype : List Char
  deriving DecidableEq, Repr

namespace MediaType

/-- A blank that is one byte long. -/
def isHeaderBlank (c : Char) : Bool :=
  Text.isBlank c && c.toNat < 0x80

/-- The media type that a header names, if there is just one slash in it. -/
def read? (header : List Char) : Option MediaType :=
  match Text.parts '/' ((Text.trimOf isHeaderBlank (header.takeWhile (· ≠ ';'))).map
      Binary64.asciiLower) with
  | [type, subtype] => some ⟨type, subtype⟩
  | _ => none

/-- What ends the name of a format that is built on JSON. -/
def jsonEnd : List Char := "+json".toList

/-- A body of the type is JSON: the type is that of an application, the subtype JSON or a format
built on it. -/
def isJson (m : MediaType) : Bool :=
  m.type = "application".toList &&
    (m.subtype = "json".toList || jsonEnd.isSuffixOf m.subtype)

end MediaType

/-! ## Messages -/

/-- The method of a request. -/
inductive Method
  | get
  | head
  | post
  | put
  | delete
  | other
  deriving DecidableEq, Repr

/-- The method with the given name. -/
def Method.ofName (name : String) : Method :=
  match name with
  | "GET" => .get
  | "HEAD" => .head
  | "POST" => .post
  | "PUT" => .put
  | "DELETE" => .delete
  | _ => .other

/-- The body of a request. -/
inductive Body
  | absent
  | payload (value : Payload)
  | text (value : String)
  deriving Repr

/-- What surrounds a request: whether the catalog is there, and why the database is not, if so. -/
structure Conditions where
  hasCatalog : Bool := true
  databaseDown : Option String := none
  deriving DecidableEq, Repr

/-- A request. -/
structure Request where
  method : Method
  /-- The path, percent-decoded. -/
  path : String
  query : Entries String := []
  headers : Entries String := []
  body : Body := .absent
  conditions : Conditions := {}
  deriving Repr

/-- The value of a header with the given name in small letters. Of several the first counts. -/
def Request.header? (q : Request) (name : List Char) : Option String :=
  (q.headers.find? fun h => h.1.toList.map Binary64.asciiLower = name).map (·.2)

/-- The header under which a request carries an id of its own. -/
def requestIdHeader : List Char := "x-request-id".toList

/-- The header that names the media type of the body. -/
def mediaTypeHeader : List Char := "content-type".toList

/-- The id that a request carries; an empty one does not count. -/
def Request.ownId (q : Request) : Option String :=
  (q.header? requestIdHeader).filter (!·.isEmpty)

/-- The body of a request is JSON, which it is unless a header says something else. -/
def Request.isJson (q : Request) : Bool :=
  match q.header? mediaTypeHeader with
  | none => true
  | some header => (MediaType.read? header.toList).any (·.isJson)

/-- What a reply carries: a payload, or a text with its media type, if it has one. -/
inductive Content
  | json (value : Payload)
  | text (mediaType : Option String) (value : String)
  deriving Repr

/-- The media type of a plain text. -/
def plainType : String := "text/plain; charset=utf-8"

/-- The media type of a page. -/
def pageType : String := "text/html; charset=utf-8"

/-- A reply. -/
structure Reply where
  status : Nat
  content : Content
  disposition : Option String := none
  requestId : Option String := none
  deriving Repr

namespace Reply

/-- A reply in JSON. -/
def json (status : Nat) (value : Payload) : Reply :=
  { status, content := .json value }

/-- A reply that tells in one sentence what happened. -/
def detail (status : Nat) (text : String) : Reply :=
  json status (.record [("detail", .text text)])

/-- A reply that confirms a deletion. -/
def confirmation (text : String) : Reply :=
  json 200 (.record [("message", .text text)])

/-- A reply in plain text. -/
def plain (status : Nat) (text : String) : Reply :=
  { status, content := .text (some plainType) text }

/-- A reply to a failure that was not foreseen. -/
def internalError : Reply :=
  plain 500 "Internal Server Error"

/-- A reply that sends the client to another path. -/
def redirect : Reply :=
  { status := 307, content := .text none "" }

/-- A step of a path as a payload. -/
def ofStep : Step → Payload
  | .field name => .text name
  | .item index => .integer index

/-- An issue as a payload. -/
def ofIssue (issue : Issue) : Payload :=
  .record [("type", .text issue.fault.code), ("loc", .list (issue.path.map ofStep)),
    ("msg", .text issue.fault.message)]

/-- The reply to a body that does not fit its schema. -/
def invalid (issues : List Issue) : Reply :=
  json 422 (.record [("detail", .list (issues.map fun issue =>
    ofIssue (issue.under (.field "body"))))])

/-- The reply to a body that is no JSON, with the offset at which reading stopped. -/
def malformed (offset : Nat) : Reply :=
  json 422 (.record [("detail", .list [.record [("type", .text "json_invalid"),
    ("loc", .list [.text "body", .integer offset]), ("msg", .text "JSON decode error")]])])

/-- The reply to a body that could not be read. -/
def unread : Json.Flaw → Reply
  | .malformed offset => malformed offset
  | .unreadable => detail 400 "There was an error parsing the body"

/-- The reply without the numbers that JSON cannot carry, if the rest can be encoded. -/
def encodable? (r : Reply) : Option Reply :=
  match r.content with
  | .json value =>
    if value.isWhole then some { r with content := .json value.finiteOrNull } else none
  | .text _ value => if Text.isWhole value.toList then some r else none

end Reply

/-- The id of the request with the given number. -/
def numberedId (number : Nat) : String :=
  "00000000-0000-0000-0000-" ++ String.ofList (Text.hex 12 number)

end PlanCompiler.Api
