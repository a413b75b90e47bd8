import Workflow.Relay.EncodedWord

/-!
# Subjects

A subject is text in which encoded words stand for what they encode, wherever they stand.  A marked
word that is no encoded word is kept as it is.
-/

namespace Workflow.Relay.Subject

open Text (Glyph)

/-- Whether a closing mark follows on the same line. -/
def closes : List Glyph → Bool
  | [] => false
  | .char '?' :: .char '=' :: _ => true
  | glyph :: rest => glyph ≠ .char '\n' && closes rest

/-- Whether a way of writing bytes and a closed text follow. -/
def hasWay : List Glyph → Bool
  | way :: .char '?' :: rest => way.isOneOf ['q', 'Q', 'b', 'B'] && closes rest
  | _ => false

/-- Whether a word has something of the form of an encoded word in it. -/
def hasEncoded : List Glyph → Bool
  | [] => false
  | .char '=' :: .char '?' :: rest =>
    hasWay ((rest.dropWhile (· ≠ .char '?')).drop 1) || hasEncoded (.char '?' :: rest)
  | _ :: rest => hasEncoded rest

/-- The glyphs before the first opening mark. -/
def beforeMark : List Glyph → List Glyph
  | [] => []
  | .char '=' :: .char '?' :: _ => []
  | glyph :: rest => glyph :: beforeMark rest

/-- The plain part that comes next, and the glyphs after it.  It ends before an encoded word, unless
`isMalformed` says that it has been tried as one. -/
def plainPart (isMalformed : Bool) (glyphs : List Glyph) : Part × List Glyph :=
  let word := glyphs.takeWhile (!isSpace ·)
  let word := if !isMalformed && hasEncoded word then beforeMark word else word
  (.plain word, glyphs.drop word.length)

/-- The next part of a subject, and the glyphs after it. -/
def part? : List Glyph → Option (Part × List Glyph)
  | [] => none
  | glyph :: rest =>
    let glyphs := glyph :: rest
    if isSpace glyph then
      some (.blanks (glyphs.takeWhile (·.isBlank)), glyphs.dropWhile (·.isBlank))
    else
      match EncodedWord.read glyphs with
      | .ok (found, rest) => some (.encoded found, rest)
      | .error problem => some (plainPart (problem = .malformed) glyphs)

/-- The text of a subject. -/
def read (text : String) : String :=
  Glyph.text (Part.join (many part? (Glyph.ofText text)).1)

end Workflow.Relay.Subject
