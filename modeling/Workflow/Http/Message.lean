import Workflow.Json.Encoding
import Workflow.Record.Reader
import Workflow.Text.Blank
import Workflow.Text.Lowercase
import Workflow.Text.Utf8
import Workflow.Value.Text

/-!
# Requests and replies

A request is a method, a path, a query, headers and a body, all as they arrive.  A reply is a status
and a body, which is JSON or plain text, unless the service breaks off with a fault.
-/

namespace Workflow.Http

/-- A request. -/
structure Request where
  method : String
  path : String
  query : String := ""
  headers : Object := []
  body : Option String := none

/-- A reply. -/
inductive Reply where
  | respond (status : Nat) (body : Value)
  /-- A response in plain text. -/
  | plain (status : Nat) (text : String)
  /-- The service broke off with a failure of the named class. -/
  | broken (name : String)

namespace Reply

/-- A successful response. -/
def ok (fields : Object) : Reply := .respond 200 (.obj fields)

/-- A response that gives the detail of an error. -/
def detail (status : Nat) (detail : Value) : Reply := .respond status (.obj [("detail", detail)])

/-- A place as it stands in a response. -/
def placeValue : Record.Place → Value
  | .field name => .str name
  | .item index => .ofNat index

/-- The response to a request that violates rules. -/
def unprocessable (violations : List Record.Violation) : Reply :=
  detail 422 (.arr (violations.map fun violation =>
    .obj [("type", .str violation.rule.name),
      ("loc", .arr (violation.places.map placeValue))]))

end Reply

/-- What the body of a request holds. -/
inductive Body where
  | absent
  | value (value : Value)
  /-- No JSON text, with the offset where that was noticed. -/
  | malformed (offset : Nat)
  /-- A JSON text that cannot be read. -/
  | unreadable

/-- Cut a text at every mark. -/
def splitAt (mark : Char) : List Char → List (List Char)
  | [] => [[]]
  | c :: rest =>
    if c = mark then [] :: splitAt mark rest
    else
      match splitAt mark rest with
      | [] => [[c]]
      | part :: parts => (c :: part) :: parts

/-- The value of the first header with a name, given in lower case. -/
def Request.header? (request : Request) (name : String) : Option Value :=
  (request.headers.find? fun header => Text.lowercase header.1.shown = name).map (·.2)

/-- Whether a content type is one of JSON. -/
def isJsonType (contentType : String) : Bool :=
  let kind := Text.lowercase (Text.strip (String.ofList (contentType.toList.takeWhile (· ≠ ';'))))
  match splitAt '/' kind.toList with
  | [main, sub] =>
    String.ofList main = "application" &&
      (String.ofList sub = "json" || "+json".toList.isSuffixOf sub)
  | _ => false

/-- Whether a request announces a body in JSON, as one without a content type does. -/
def Request.announcesJson (request : Request) : Bool :=
  match request.header? "content-type" with
  | some (.str contentType) => isJsonType contentType
  | _ => true

/-- Read a body in JSON. -/
def readJson (text : String) : Body :=
  match Json.decode? (Text.Utf8.encode text) with
  | none => .unreadable
  | some chars =>
    match Json.read (String.ofList chars) with
    | .ok value => .value value
    | .error error =>
      if error.fault.kind = .malformedJson then .malformed error.offset else .unreadable

/-- Read the body of a request; one that is not in JSON is a text. -/
def Request.readBody (request : Request) : Body :=
  match request.body with
  | none => .absent
  | some "" => .absent
  | some text => if request.announcesJson then readJson text else .value (.str text)

/-- The bytes that percent-encoded ASCII stands for. -/
def percentBytes : List Char → List UInt8
  | [] => []
  | '%' :: a :: b :: rest =>
    match Json.hexDigit? a, Json.hexDigit? b with
    | some high, some low => UInt8.ofNat (high * 16 + low) :: percentBytes rest
    | _, _ => 0x25 :: percentBytes (a :: b :: rest)
  | c :: rest => UInt8.ofNat c.toNat :: percentBytes rest

/-- The characters that percent-encoded characters stand for.  Those outside ASCII stand for
themselves and end a run of encoded ones.  `run` is the present run, last character first. -/
def percentDecodeFrom (run : List Char) : List Char → List Char
  | [] => Text.Utf8.mend (percentBytes run.reverse)
  | c :: rest =>
    if c.toNat < 0x80 then percentDecodeFrom ((if c = '+' then ' ' else c) :: run) rest
    else Text.Utf8.mend (percentBytes run.reverse) ++ c :: percentDecodeFrom [] rest

/-- The text that percent-encoded characters stand for; a plus stands for a blank. -/
def percentDecode (chars : List Char) : String := String.ofList (percentDecodeFrom [] chars)

/-- The characters of a query, one for each byte that arrives. -/
def Request.queryChars (request : Request) : List Char :=
  (Text.Utf8.encode request.query).map fun byte => Char.ofNat byte.toNat

/-- The parameters of a query, in order. -/
def Request.parameters (request : Request) : List (String × String) :=
  ((splitAt '&' request.queryChars).filter (!·.isEmpty)).map fun pair =>
    (percentDecode (pair.takeWhile (· ≠ '=')), percentDecode ((pair.dropWhile (· ≠ '=')).drop 1))

/-- The last value of a parameter. -/
def Request.parameter? (request : Request) (name : String) : Option String :=
  (request.parameters.reverse.find? (·.1 = name)).map (·.2)

end Workflow.Http
