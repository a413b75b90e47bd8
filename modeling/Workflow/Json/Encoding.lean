import Workflow.Json.Reader
import Workflow.Text.Utf8

/-!
# The encoding of JSON texts

A JSON text that arrives as bytes is in UTF-8, UTF-16 or UTF-32.  Its first characters are ASCII, so
the places of the zero bytes among the first four tell which of them it is.
-/

namespace Workflow.Json

/-- How bytes stand for characters. -/
inductive Encoding where
  | utf8
  | utf16 (lowFirst : Bool)
  | utf32 (lowFirst : Bool)
deriving DecidableEq

namespace Encoding

/-- The encoding that the first bytes of a text tell. -/
def detect : List UInt8 → Encoding
  | a :: b :: c :: d :: _ =>
    if a = 0 then if b = 0 then .utf32 false else .utf16 false
    else if b = 0 then if c = 0 ∧ d = 0 then .utf32 true else .utf16 true
    else .utf8
  | [a, b] => if a = 0 then .utf16 false else if b = 0 then .utf16 true else .utf8
  | _ => .utf8

/-- The number that bytes stand for, whose last one counts least unless `lowFirst`. -/
def unit (lowFirst : Bool) (bytes : List UInt8) : Nat :=
  Text.ofDigits 256 ((if lowFirst then bytes.reverse else bytes).map UInt8.toNat)

/-- The units of two bytes each. -/
def units16? (lowFirst : Bool) : List UInt8 → Option (List Nat)
  | [] => some []
  | a :: b :: rest => (units16? lowFirst rest).map (unit lowFirst [a, b] :: ·)
  | _ => none

/-- The units of four bytes each. -/
def units32? (lowFirst : Bool) : List UInt8 → Option (List Nat)
  | [] => some []
  | a :: b :: c :: d :: rest => (units32? lowFirst rest).map (unit lowFirst [a, b, c, d] :: ·)
  | _ => none

/-- The character of a code point; half of a surrogate pair is none and is replaced. -/
def character? (code : Nat) : Option Char :=
  if isHighSurrogate code || isLowSurrogate code then some '\ufffd'
  else if code ≤ 0x10ffff then some (Char.ofNat code)
  else none

/-- The byte order mark in UTF-8. -/
def mark : List UInt8 := [0xef, 0xbb, 0xbf]

/-- The characters that bytes encode; a byte order mark before UTF-8 is dropped. -/
def characters? (bytes : List UInt8) : Encoding → Option (List Char)
  | .utf8 =>
    let body := if mark.isPrefixOf bytes then bytes.drop mark.length else bytes
    (Text.Utf8.decode body).toOption.map String.toList
  | .utf16 lowFirst => (units16? lowFirst bytes).map joinUnits
  | .utf32 lowFirst => (units32? lowFirst bytes).bind (·.mapM character?)

end Encoding

/-- The characters of a JSON text that arrives as bytes. -/
def decode? (bytes : List UInt8) : Option (List Char) :=
  (Encoding.detect bytes).characters? bytes

end Workflow.Json
