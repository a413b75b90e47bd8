import Workflow.Fault
import Workflow.Text.Base64
import Workflow.Text.Utf8
import Workflow.Value.Equality
import Workflow.Value.Text

/-!
# Described keys

A key can be described by an object: its type and its parts, which are numbers or bytes written in
base64.
-/

namespace Workflow.Token

/-- The fault of a key that cannot be used. -/
def Key.fault (text : String) : Fault := .reported (.named "JWKError") text

/-- The fault of a text in base64 that cannot be read. -/
def Key.encodingFault (problem : Text.Base64.Problem) : Fault :=
  .reported (.named "Error") problem.wording

/-- The description of a key. -/
abbrev Description := Object

namespace Description

/-- The fault of a described key of another type than the wanted one. -/
def typeFault (wanted : String) (description : Description) : Fault :=
  match (Value.field description "kty").text with
  | .ok found => Key.fault s!"Incorrect key type. Expected: '{wanted}', Received: {found}"
  | .error cause => cause

/-- Check that a description is of a key of a type. -/
def checkType (wanted : String) (description : Description) : Except Fault Unit :=
  if (Value.field description "kty").same (.str wanted) then .ok ()
  else .error (typeFault wanted description)

/-- The bytes of a described secret. -/
def secret (description : Description) : Except Fault (List UInt8) := do
  checkType "oct" description
  match Value.field description "k" with
  | .str text => (Text.Base64.decode (Text.Utf8.encode text)).mapError Key.encodingFault
  | other => throw (.noOperation other.type "encode")

/-- How a character outside ASCII is named. -/
def escape (c : Char) : String :=
  let number := c.toNat
  if number < 0x100 then "\\x" ++ String.ofList (Text.hex 2 number)
  else if number < 0x10000 then "\\u" ++ String.ofList (Text.hex 4 number)
  else "\\U" ++ String.ofList (Text.hex 8 number)

/-- The fault of a text that is not in ASCII, of which `before` is; `wrong` is what is not. -/
def asciiFault (before wrong : List Char) : Fault :=
  let start := before.length
  let subject := match wrong with
    | [c] => s!"character '{escape c}' in position {start}"
    | _ => s!"characters in position {start}-{start + wrong.length - 1}"
  .reported (.named "UnicodeEncodeError")
    s!"'ascii' codec can't encode {subject}: ordinal not in range(128)"

/-- Whether a character is in ASCII. -/
def isAscii (c : Char) : Bool := c.toNat < 0x80

/-- The bytes of a text in ASCII. -/
def asciiBytes (text : String) : Except Fault (List UInt8) :=
  match text.toList.dropWhile isAscii with
  | [] => .ok (Text.Utf8.encode text)
  | wrong =>
    .error (asciiFault (text.toList.takeWhile isAscii) (wrong.takeWhile (!isAscii ·)))

/-- The fault of an item among bytes that is none. -/
def byteFault (item : Value) : Fault :=
  .reported .type s!"'{item.type.name}' object cannot be interpreted as an integer"

/-- The bytes that are written as a value; what is neither a text nor empty has none. -/
def writtenBytes : Value → Except Fault (List UInt8)
  | .str text => asciiBytes text
  | .bool _ | .arr [] | .obj [] => .ok []
  | .arr (item :: _) => .error (byteFault item)
  | .obj (field :: _) => .error (byteFault (.ofName field.1))
  | other => .error (.reported .type s!"cannot convert '{other.type.name}' object to bytes")

/-- The number that a part of a description is. -/
def number (description : Description) (name : String) : Except Fault Nat := do
  let written ← writtenBytes (Value.field description name)
  let bytes ← (Text.Base64.decodePadded written).mapError Key.encodingFault
  if bytes.isEmpty then
    throw (.reported .value "invalid literal for int() with base 16: ''")
  else return bytes.foldl (fun total byte => total * 256 + byte.toNat) 0

end Description

end Workflow.Token
