import Workflow.Text.Blank
import Workflow.Text.Utf8

/-!
# Glyphs

What a character set makes of bytes is a sequence of glyphs: characters, and bytes that it leaves
unexplained.  Such bytes are kept until the whole text is known, since bytes left over by two
neighbouring parts may be a character together.
-/

namespace Workflow.Text

/-- A character, or a byte that its character set leaves unexplained. -/
inductive Glyph where
  | char (c : Char)
  | byte (value : UInt8)
deriving DecidableEq

namespace Glyph

instance : Coe Char Glyph := ⟨.char⟩

/-- Whether a glyph is one of these characters. -/
def isOneOf (glyph : Glyph) (chars : List Char) : Bool :=
  match glyph with
  | .char c => chars.contains c
  | .byte _ => false

/-- Whether a glyph is a blank. -/
def isBlank : Glyph → Bool
  | .char c => Text.isBlank c
  | .byte _ => false

/-- The glyphs of a text. -/
def ofText (text : String) : List Glyph := text.toList.map .char

/-- The bytes that a glyph stands for. -/
def bytes : Glyph → List UInt8
  | .char c => Utf8.encodeCode c.toNat
  | .byte value => [value]

/-- The text that glyphs show: bytes left unexplained are read as UTF-8 together with what surrounds
them, and mended. -/
def text (glyphs : List Glyph) : String := String.ofList (Utf8.mend (glyphs.flatMap bytes))

/-- Every run that begins with a space or a tab and goes on with blanks becomes one space;
`within` says whether such a run has begun. -/
def collapseFrom (within : Bool) : List Glyph → List Glyph
  | [] => []
  | glyph :: rest =>
    if within ∧ glyph.isBlank then collapseFrom true rest
    else if glyph.isOneOf [' ', '\t'] then .char ' ' :: collapseFrom true rest
    else glyph :: collapseFrom false rest

/-- Make one space of every run of blanks that begins with a space or a tab. -/
def collapse (glyphs : List Glyph) : List Glyph := collapseFrom false glyphs

/-- Leave out all blanks. -/
def withoutBlanks (glyphs : List Glyph) : List Glyph := glyphs.filter (!·.isBlank)

/-- Put a text in quotation marks, with a backslash before each mark and backslash in it. -/
def quote (glyphs : List Glyph) : List Glyph :=
  .char '"' :: glyphs.flatMap (fun glyph =>
    if glyph.isOneOf ['\\', '"'] then [.char '\\', glyph] else [glyph]) ++ [.char '"']

end Glyph

end Workflow.Text
