import Workflow.Text.Quoted

/-!
# UTF-8

Encoding, and two ways of decoding.  The strict one refuses a byte sequence that is not the encoding
of a text with the first stretch of bytes that cannot begin or continue a character.  The other one
takes bytes apart into characters and such stretches.
-/

namespace Workflow.Text.Utf8

/-- The bytes of a code point. -/
def encodeCode (code : Nat) : List UInt8 :=
  if code < 0x80 then [UInt8.ofNat code]
  else if code < 0x800 then
    [UInt8.ofNat (0xc0 + code / 0x40), UInt8.ofNat (0x80 + code % 0x40)]
  else if code < 0x10000 then
    [UInt8.ofNat (0xe0 + code / 0x1000), UInt8.ofNat (0x80 + code / 0x40 % 0x40),
      UInt8.ofNat (0x80 + code % 0x40)]
  else
    [UInt8.ofNat (0xf0 + code / 0x40000), UInt8.ofNat (0x80 + code / 0x1000 % 0x40),
      UInt8.ofNat (0x80 + code / 0x40 % 0x40), UInt8.ofNat (0x80 + code % 0x40)]

/-- The bytes of a text. -/
def encode (text : String) : List UInt8 := text.toList.flatMap fun c => encodeCode c.toNat

/-- Why bytes are no text. -/
inductive Reason where
  | invalidStart
  | invalidContinuation
  | unexpectedEnd
deriving DecidableEq

/-- The wording of a reason. -/
def Reason.wording : Reason → String
  | .invalidStart => "invalid start byte"
  | .invalidContinuation => "invalid continuation byte"
  | .unexpectedEnd => "unexpected end of data"

/-- The stretch of bytes that is at fault. -/
structure DecodeError where
  reason : Reason
  position : Nat
  bytes : List UInt8
deriving DecidableEq

/-- The text of a decoding error. -/
def DecodeError.text (error : DecodeError) : String :=
  match error.bytes with
  | [byte] =>
    s!"'utf-8' codec can't decode byte 0x{String.ofList (hex 2 byte.toNat)} in position " ++
      s!"{error.position}: {error.reason.wording}"
  | bytes =>
    s!"'utf-8' codec can't decode bytes in position {error.position}-" ++
      s!"{error.position + bytes.length - 1}: {error.reason.wording}"

/-- How a character begins: its number of further bytes, the bits its first byte gives, and the
range of its second byte. -/
structure Lead where
  more : Nat
  bits : Nat
  low : Nat
  high : Nat

/-- What a first byte announces. -/
def lead? (byte : UInt8) : Option Lead :=
  let b := byte.toNat
  if b < 0x80 then some ⟨0, b, 0, 0⟩
  else if b < 0xc2 then none
  else if b < 0xe0 then some ⟨1, b - 0xc0, 0x80, 0xbf⟩
  else if b < 0xf0 then
    some ⟨2, b - 0xe0, if b = 0xe0 then 0xa0 else 0x80, if b = 0xed then 0x9f else 0xbf⟩
  else if b < 0xf5 then
    some ⟨3, b - 0xf0, if b = 0xf0 then 0x90 else 0x80, if b = 0xf4 then 0x8f else 0xbf⟩
  else none

/-- Collect `more` further bytes of a character; the next one has to lie between `low` and `high`
and those after it between 0x80 and 0xbf.  A failure gives the bytes accepted so far. -/
def continueFrom (code : Nat) (seen : List UInt8) (low high : Nat) :
    Nat → List UInt8 → Except (Reason × List UInt8) (Nat × List UInt8)
  | 0, rest => .ok (code, rest)
  | _ + 1, [] => .error (.unexpectedEnd, seen)
  | more + 1, byte :: rest =>
    if low ≤ byte.toNat ∧ byte.toNat ≤ high then
      continueFrom (code * 0x40 + (byte.toNat - 0x80)) (seen ++ [byte]) 0x80 0xbf more rest
    else .error (.invalidContinuation, seen)

/-- The characters of bytes that begin at `position`; `fuel` is at least their number. -/
def decodeFrom (position : Nat) : Nat → List UInt8 → Except DecodeError (List Char)
  | _, [] => .ok []
  | 0, _ => .ok []
  | fuel + 1, byte :: rest =>
    match lead? byte with
    | none => .error ⟨.invalidStart, position, [byte]⟩
    | some lead =>
      match continueFrom lead.bits [byte] lead.low lead.high lead.more rest with
      | .error (reason, bytes) => .error ⟨reason, position, bytes⟩
      | .ok (code, left) =>
        (decodeFrom (position + 1 + lead.more) fuel left).map (Char.ofNat code :: ·)

/-- The text that bytes encode. -/
def decode (bytes : List UInt8) : Except DecodeError String :=
  (decodeFrom 0 bytes.length bytes).map String.ofList

/-- A part of bytes that need not be a text: a character, or a stretch that is part of none. -/
inductive Piece where
  | character (c : Char)
  | stray (bytes : List UInt8)
deriving DecidableEq

/-- The parts of bytes; `fuel` is at least their number. -/
def piecesFrom : Nat → List UInt8 → List Piece
  | _, [] => []
  | 0, _ => []
  | fuel + 1, byte :: rest =>
    match lead? byte with
    | none => .stray [byte] :: piecesFrom fuel rest
    | some lead =>
      match continueFrom lead.bits [byte] lead.low lead.high lead.more rest with
      | .error (_, bytes) => .stray bytes :: piecesFrom fuel ((byte :: rest).drop bytes.length)
      | .ok (code, left) => .character (Char.ofNat code) :: piecesFrom fuel left

/-- The parts of bytes. -/
def pieces (bytes : List UInt8) : List Piece := piecesFrom bytes.length bytes

/-- The character that shows a part: a stretch that is part of no text becomes one replacement
character. -/
def Piece.shown : Piece → Char
  | .character c => c
  | .stray _ => '\ufffd'

/-- The text that bytes encode, with replacement characters where they encode none. -/
def mend (bytes : List UInt8) : List Char := (pieces bytes).map Piece.shown

end Workflow.Text.Utf8
