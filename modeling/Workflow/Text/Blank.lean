import Workflow.Text.Ranges

/-!
# Blanks and trimming

Blanks are the white space of Unicode together with the four information separators
U+001C to U+001F.  Zero-width characters are not blank.
-/

namespace Workflow.Text

/-- The blank code points. -/
def blankRanges : Ranges :=
  [(0x09, 0x0d), (0x1c, 0x20), (0x85, 0x85), (0xa0, 0xa0), (0x1680, 0x1680),
   (0x2000, 0x200a), (0x2028, 0x2029), (0x202f, 0x202f), (0x205f, 0x205f), (0x3000, 0x3000)]

/-- Blanks surround a placeholder's path, a variable's name and a token. -/
def isBlank (c : Char) : Bool := blankRanges.contains c.toNat

/-- Remove the characters satisfying `drop` from both ends. -/
def trimChars (drop : Char → Bool) (chars : List Char) : List Char :=
  ((chars.dropWhile drop).reverse.dropWhile drop).reverse

/-- Remove blanks from both ends. -/
def strip (text : String) : String := String.ofList (trimChars isBlank text.toList)

end Workflow.Text
