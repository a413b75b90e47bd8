import Workflow.Relay.Reading
import Workflow.Text.Base64
import Workflow.Text.Charset.Names

/-!
# Encoded words

An encoded word stands for glyphs beyond ASCII.  Between an opening and a closing mark it names a
character set, perhaps with a language after an asterisk, and a way of writing bytes: as they are
with escapes for some, or in Base64.  Blanks between two encoded words do not count.
-/

namespace Workflow.Relay.EncodedWord

open Text (Glyph Charset)

/-- Why there is no encoded word. -/
inductive Problem where
  /-- Nothing is marked as one. -/
  | unmarked
  /-- What is marked as one is none. -/
  | malformed
deriving DecidableEq

/-- The value of a hexadecimal digit. -/
def digit? (byte : UInt8) : Option UInt8 :=
  if 0x30 ≤ byte ∧ byte ≤ 0x39 then some (byte - 0x30)
  else if 0x41 ≤ byte ∧ byte ≤ 0x46 then some (byte - 0x37)
  else if 0x61 ≤ byte ∧ byte ≤ 0x66 then some (byte - 0x57)
  else none

/-- The byte of a glyph in an encoded word: that of an ASCII character, or one left unexplained. -/
def byte? : Glyph → Option UInt8
  | .char c => if c.toNat < 0x80 then some (UInt8.ofNat c.toNat) else none
  | .byte value => some value

/-- The byte of an escape: an equals sign and two hexadecimal digits. -/
def escaped? (mark high low : UInt8) : Option UInt8 :=
  if mark = 0x3d then (digit? high).bind fun high => (digit? low).map (high * 16 + ·) else none

/-- The byte of one that stands for itself, but for the underscore, which is a space. -/
def plain (byte : UInt8) : UInt8 := if byte = 0x5f then 0x20 else byte

/-- The bytes written as they are, with escapes for some. -/
def unescape : List UInt8 → List UInt8
  | [] => []
  | first :: second :: third :: rest =>
    match escaped? first second third with
    | some byte => byte :: unescape rest
    | none => plain first :: unescape (second :: third :: rest)
  | byte :: rest => plain byte :: unescape rest

/-- The bytes written in Base64, to which padding is added if need be; what is not Base64 even then
stands for itself. -/
def fromBase64 (written : List UInt8) : List UInt8 :=
  match Text.Base64.decodeOrdinary written with
  | .ok bytes => bytes
  | .error _ =>
    match Text.Base64.decodeOrdinary (written ++ [0x3d, 0x3d]) with
    | .ok bytes => bytes
    | .error _ => written

/-- The bytes that a way of writing makes of others. -/
def bytesOf? (way : List Glyph) (written : List UInt8) : Option (List UInt8) :=
  match way with
  | [.char c] =>
    if c = 'q' ∨ c = 'Q' then some (unescape written)
    else if c = 'b' ∨ c = 'B' then some (fromBase64 written)
    else none
  | _ => none

/-- The characters of glyphs that all are characters. -/
def chars? (glyphs : List Glyph) : Option (List Char) :=
  glyphs.mapM fun glyph =>
    match glyph with
    | .char c => some c
    | .byte _ => none

/-- The glyphs of bytes in a character set; one that is not known counts as ASCII. -/
def decode? (name : List Glyph) (bytes : List UInt8) : Option (List Glyph) :=
  let name := name.takeWhile (· ≠ .char '*')
  if name.contains (.char '\x00') then none
  else (((chars? name).bind Charset.named?).getD Charset.ascii).decode bytes

/-- Cut glyphs at a character. -/
def cutAt (c : Char) : List Glyph → List (List Glyph)
  | [] => [[]]
  | glyph :: rest =>
    match cutAt c rest with
    | [] => [[glyph]]
    | part :: parts => if glyph = .char c then [] :: part :: parts else (glyph :: part) :: parts

/-- The glyphs that the inside of an encoded word stands for. -/
def inside? (glyphs : List Glyph) : Option (List Glyph) :=
  match cutAt '?' glyphs with
  | [name, way, written] =>
    ((written.mapM byte?).bind (bytesOf? way)).bind (decode? name)
  | _ => none

/-- The glyphs before and after the first closing mark. -/
def cutAtClose? : List Glyph → Option (List Glyph × List Glyph)
  | [] => none
  | .char '?' :: .char '=' :: rest => some ([], rest)
  | glyph :: rest => (cutAtClose? rest).map fun (before, after) => (glyph :: before, after)

/-- Whether a glyph is a hexadecimal digit. -/
def isDigit (glyph : Glyph) : Bool := ((byte? glyph).bind digit?).isSome

/-- Whether the glyphs after a closing mark show that it was none: before it stands no more than a
character set, and after it two hexadecimal digits, so that its equals sign belongs to an escape. -/
def isEscape (before : List Glyph) : List Glyph → Bool
  | first :: second :: _ => isDigit first && isDigit second && before.count (.char '?') < 2
  | _ => false

/-- The inside of an encoded word, after its opening mark, and what follows the word. -/
def insideAndRest? (glyphs : List Glyph) : Option (List Glyph × List Glyph) :=
  (cutAtClose? glyphs).map fun (before, after) =>
    if isEscape before after then
      match cutAtClose? after with
      | some (more, rest) => (before ++ .char '?' :: .char '=' :: more, rest)
      | none => (before ++ .char '?' :: .char '=' :: after, [])
    else (before, after)

/-- Read an encoded word: what it stands for, and the glyphs after it. -/
def read : List Glyph → Except Problem (List Glyph × List Glyph)
  | .char '=' :: .char '?' :: glyphs =>
    match insideAndRest? glyphs with
    | none => .error .unmarked
    | some (inside, rest) =>
      match inside? inside with
      | none => .error .malformed
      | some found => .ok (found, rest)
  | _ => .error .unmarked

end EncodedWord

open Text (Glyph)

/-- The parts of a text with encoded words. -/
inductive Part where
  | blanks (glyphs : List Glyph)
  | encoded (glyphs : List Glyph)
  | plain (glyphs : List Glyph)
deriving DecidableEq

namespace Part

/-- The glyphs of a part. -/
def glyphs : Part → List Glyph
  | .blanks glyphs | .encoded glyphs | .plain glyphs => glyphs

/-- The glyphs of parts, without the blanks between two encoded words. -/
def join : List Part → List Glyph
  | [] => []
  | [part] => part.glyphs
  | [first, second] => first.glyphs ++ second.glyphs
  | .encoded first :: .blanks _ :: .encoded second :: rest =>
    first ++ join (.encoded second :: rest)
  | part :: second :: third :: rest => part.glyphs ++ join (second :: third :: rest)

end Part

end Workflow.Relay
