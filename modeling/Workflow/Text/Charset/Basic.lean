import Workflow.Text.Glyph

/-!
# Character sets

A character set makes glyphs of bytes.  Bytes that it cannot explain stay as they are.
-/

namespace Workflow.Text

/-- How the bytes of a text are to be read. -/
inductive Charset where
  | utf8
  /-- The same, perhaps with a mark at the start. -/
  | utf8Marked
  /-- Units of two bytes, the greater one first or last. -/
  | utf16 (greaterFirst : Bool)
  /-- Units of two bytes, whose order a mark at the start may give. -/
  | utf16Marked
  /-- Units of four bytes, the greatest one first or last. -/
  | utf32 (greaterFirst : Bool)
  /-- Units of four bytes, whose order a mark at the start may give. -/
  | utf32Marked
  /-- Bytes from `start` on are characters of the table; those before are code points. -/
  | table (start : Nat) (characters : List Char)
deriving DecidableEq

namespace Charset

/-- The glyph of a byte in a table, where the replacement character marks a gap. -/
def tableGlyph (start : Nat) (characters : List Char) (byte : UInt8) : Glyph :=
  if byte.toNat < start then .char (Char.ofNat byte.toNat)
  else
    match characters[byte.toNat - start]? with
    | none => .byte byte
    | some c => if c = '\ufffd' then .byte byte else .char c

/-- The glyphs of parts of bytes. -/
def pieceGlyphs : Utf8.Piece → List Glyph
  | .character c => [.char c]
  | .stray bytes => bytes.map .byte

/-- The number of a unit of two bytes. -/
def unit (greaterFirst : Bool) (first second : UInt8) : Nat :=
  if greaterFirst then first.toNat * 256 + second.toNat else second.toNat * 256 + first.toNat

/-- The bytes at the start of a stretch that stay unexplained: those outside ASCII.  There is no
reading of a stretch that starts with one inside. -/
def strayBytes (stretch : List UInt8) : List UInt8 := stretch.takeWhile (0x80 ≤ ·.toNat)

/-- The glyphs of units of two bytes; `fuel` is at least the number of bytes. -/
def unitGlyphs (greaterFirst : Bool) : Nat → List UInt8 → Option (List Glyph)
  | _, [] => some []
  | 0, _ => some []
  | fuel + 1, bytes =>
    let skip (stretch : List UInt8) : Option (List Glyph) :=
      let stray := strayBytes stretch
      if stray.isEmpty then none
      else (unitGlyphs greaterFirst fuel (bytes.drop stray.length)).map (stray.map .byte ++ ·)
    match bytes with
    | first :: second :: rest =>
      let code := unit greaterFirst first second
      if code < 0xd800 ∨ 0xe000 ≤ code then
        (unitGlyphs greaterFirst fuel rest).map (.char (Char.ofNat code) :: ·)
      else if 0xdc00 ≤ code then skip [first, second]
      else
        match rest with
        | third :: fourth :: rest =>
          let low := unit greaterFirst third fourth
          if 0xdc00 ≤ low ∧ low < 0xe000 then
            let joined := 0x10000 + (code - 0xd800) * 0x400 + (low - 0xdc00)
            (unitGlyphs greaterFirst fuel rest).map (.char (Char.ofNat joined) :: ·)
          else skip [first, second]
        | _ => skip bytes
    | _ => skip bytes

/-- The glyphs of units of four bytes; `fuel` is at least the number of bytes. -/
def longUnitGlyphs (greaterFirst : Bool) : Nat → List UInt8 → Option (List Glyph)
  | _, [] => some []
  | 0, _ => some []
  | fuel + 1, bytes =>
    let stretch := bytes.take 4
    let ordered := if greaterFirst then stretch else stretch.reverse
    let code := ordered.foldl (fun total byte => total * 256 + byte.toNat) 0
    if stretch.length = 4 ∧ code.isValidChar then
      (longUnitGlyphs greaterFirst fuel (bytes.drop 4)).map (.char (Char.ofNat code) :: ·)
    else
      let stray := strayBytes stretch
      if stray.isEmpty then none
      else (longUnitGlyphs greaterFirst fuel (bytes.drop stray.length)).map (stray.map .byte ++ ·)

/-- The glyphs of bytes in UTF-8. -/
def utf8Glyphs (bytes : List UInt8) : List Glyph := (Utf8.pieces bytes).flatMap pieceGlyphs

/-- The glyphs of bytes; none if they cannot be read at all. -/
def decode (charset : Charset) (bytes : List UInt8) : Option (List Glyph) :=
  match charset with
  | .utf8 => some (utf8Glyphs bytes)
  | .utf8Marked =>
    match bytes with
    | 0xef :: 0xbb :: 0xbf :: rest => some (utf8Glyphs rest)
    | _ => some (utf8Glyphs bytes)
  | .table start characters => some (bytes.map (tableGlyph start characters))
  | .utf16 greaterFirst => unitGlyphs greaterFirst bytes.length bytes
  | .utf16Marked =>
    match bytes with
    | 0xfe :: 0xff :: rest => unitGlyphs true rest.length rest
    | 0xff :: 0xfe :: rest => unitGlyphs false rest.length rest
    | _ => unitGlyphs false bytes.length bytes
  | .utf32 greaterFirst => longUnitGlyphs greaterFirst bytes.length bytes
  | .utf32Marked =>
    match bytes with
    | 0 :: 0 :: 0xfe :: 0xff :: rest => longUnitGlyphs true rest.length rest
    | 0xff :: 0xfe :: 0 :: 0 :: rest => longUnitGlyphs false rest.length rest
    | _ => longUnitGlyphs false bytes.length bytes

end Charset

end Workflow.Text
