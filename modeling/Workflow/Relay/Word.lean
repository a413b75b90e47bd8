import Workflow.Relay.EncodedWord

/-!
# Words and names

Names in a header consist of words, with full stops between them.  A word is an atom, a text in
quotation marks or an encoded word; blanks and comments in parentheses may surround it, and count as
a single space where they count at all.
-/

namespace Workflow.Relay

open Text (Glyph)

/-- Whether blanks or a comment begin here. -/
def opensGap (glyph : Glyph) : Bool := glyph.isOneOf [' ', '\t', '(']

/-- The characters that have a meaning of their own in a header. -/
def specials : List Char := ['(', ')', '<', '>', '@', ',', ':', ';', '.', '\\', '"', '[', ']']

/-- Whether an atom ends here. -/
def endsAtom (glyph : Glyph) : Bool := isSpace glyph || glyph.isOneOf specials

/-- Whether a name ends here. -/
def endsName (glyph : Glyph) : Bool :=
  glyph.isOneOf [')', '<', '>', '@', ',', ':', ';', '\\', '[', ']']

/-! ## Blanks and comments -/

/-- Where the reading of blanks and comments stands. -/
inductive Gap where
  /-- Nothing is open. -/
  | outside
  /-- Blanks go on. -/
  | blanks
  /-- A comment is open within `outer` others; the next glyph may be escaped. -/
  | comment (outer : Nat) (isEscaped : Bool)

namespace Gap

/-- A glyph in a comment as it is written. -/
def written (glyph : Glyph) : List Glyph :=
  if glyph.isOneOf ['\\', '(', ')'] then [.char '\\', glyph] else [glyph]

/-- Put glyphs before what is written. -/
def before (glyphs : List Glyph) (found : List Glyph × List Glyph) : List Glyph × List Glyph :=
  (glyphs ++ found.1, found.2)

/-- Read blanks and comments on: how they are written, and the glyphs after them.  Comments that
stay open are closed at the end. -/
def readFrom : Gap → List Glyph → List Glyph × List Glyph
  | .comment outer _, [] => (List.replicate (outer + 1) (.char ')'), [])
  | _, [] => ([], [])
  | .outside, glyph :: rest =>
    if isSpace glyph then before [glyph] (readFrom .blanks rest)
    else if glyph = .char '(' then before [glyph] (readFrom (.comment 0 false) rest)
    else ([], glyph :: rest)
  | .blanks, glyph :: rest =>
    if glyph.isBlank then before [glyph] (readFrom .blanks rest)
    else if glyph = .char '(' then before [glyph] (readFrom (.comment 0 false) rest)
    else ([], glyph :: rest)
  | .comment outer isEscaped, glyph :: rest =>
    if isSpace glyph then before [glyph] (readFrom (.comment outer false) rest)
    else if isEscaped then before (written glyph) (readFrom (.comment outer false) rest)
    else if glyph = .char '\\' then readFrom (.comment outer true) rest
    else if glyph = .char '(' then before [glyph] (readFrom (.comment (outer + 1) false) rest)
    else if glyph = .char ')' then
      before [glyph] (readFrom (if outer = 0 then .outside else .comment (outer - 1) false) rest)
    else before [glyph] (readFrom (.comment outer false) rest)

/-- Read blanks and comments, if there are any here. -/
def read? : List Glyph → Option (List Glyph × List Glyph)
  | [] => none
  | glyph :: rest => if opensGap glyph then some (readFrom .outside (glyph :: rest)) else none

/-- Read what there is of blanks and comments here. -/
def readAny (glyphs : List Glyph) : Option (List Glyph) × List Glyph :=
  match read? glyphs with
  | some (gap, rest) => (some gap, rest)
  | none => (none, glyphs)

/-- The glyphs after the blanks and comments here. -/
def skip (glyphs : List Glyph) : List Glyph := (readAny glyphs).2

end Gap

/-! ## Words -/

/-- What is written up to a space or an ending glyph, where a backslash makes any glyph an ordinary
one, and the glyphs after it. -/
def literal (isEnd : Glyph → Bool) (isEscaped : Bool) : List Glyph → List Glyph × List Glyph
  | [] => ([], [])
  | glyph :: rest =>
    if isSpace glyph then ([], glyph :: rest)
    else if isEscaped then Gap.before [glyph] (literal isEnd false rest)
    else if glyph = .char '\\' then literal isEnd true rest
    else if isEnd glyph then ([], glyph :: rest)
    else Gap.before [glyph] (literal isEnd false rest)

/-- The middle of a word. -/
inductive Core where
  | atom (glyphs : List Glyph)
  /-- Atoms with single full stops between them. -/
  | dotted (glyphs : List Glyph)
  | encoded (glyphs : List Glyph)
  /-- What stands in quotation marks; nothing if the opening mark ends the header. -/
  | quoted (glyphs : Option (List Glyph))
deriving DecidableEq

namespace Core

/-- What the middle of a word stands for. -/
def value : Core → List Glyph
  | .atom glyphs | .dotted glyphs => glyphs
  | .encoded glyphs => Glyph.collapse glyphs
  | .quoted glyphs => glyphs.getD []

/-- How the middle of a word is written; an encoded word is written as what it stands for. -/
def written : Core → List Glyph
  | .atom glyphs | .dotted glyphs | .encoded glyphs => glyphs
  | .quoted glyphs => Glyph.quote (glyphs.getD [])

/-- Whether nothing at all is there. -/
def isHollow : Core → Bool
  | .encoded glyphs => glyphs.isEmpty
  | .quoted glyphs => glyphs.isNone
  | _ => false

end Core

/-- A word, and how the blanks and comments around it are written. -/
structure Word where
  before : Option (List Glyph)
  core : Core
  after : Option (List Glyph)
deriving DecidableEq

namespace Word

/-- What blanks and comments count as. -/
def space (gap : Option (List Glyph)) : List Glyph := if gap.isSome then [.char ' '] else []

/-- What a word stands for. -/
def value (word : Word) : List Glyph := space word.before ++ word.core.value ++ space word.after

/-- How a word is written. -/
def written (word : Word) : List Glyph :=
  word.before.getD [] ++ word.core.written ++ word.after.getD []

/-- The next part of a text in quotation marks. -/
def quotedPart? : List Glyph → Option (Part × List Glyph)
  | [] => none
  | glyph :: rest =>
    let glyphs := glyph :: rest
    if glyph = .char '"' then none
    else if isSpace glyph then
      some (.blanks (glyphs.takeWhile (·.isBlank)), glyphs.dropWhile (·.isBlank))
    else
      match EncodedWord.read glyphs with
      | .ok (found, rest) => some (.encoded found, rest)
      | .error _ =>
        let (found, rest) := literal (· = .char '"') false glyphs
        some (.plain found, rest)

/-- Read a text in quotation marks, after the opening one.  The closing one may be missing. -/
def readQuoted (glyphs : List Glyph) : Core × List Glyph :=
  let (parts, rest) := many quotedPart? glyphs
  (.quoted (if glyphs.isEmpty then none else some (Part.join parts)), rest.drop 1)

/-- Read an atom. -/
def readAtom (glyphs : List Glyph) : Option (Core × List Glyph) :=
  let atom := glyphs.takeWhile (!endsAtom ·)
  if atom.isEmpty then none else some (.atom atom, glyphs.drop atom.length)

/-- Read atoms with single full stops between them; `needsAtom` says that one has to follow. -/
def dottedFrom (needsAtom : Bool) : List Glyph → Option (List Glyph × List Glyph)
  | [] => if needsAtom then none else some ([], [])
  | glyph :: rest =>
    if glyph = .char '.' then
      if needsAtom then none else (dottedFrom true rest).map (Gap.before [glyph])
    else if endsAtom glyph then if needsAtom then none else some ([], glyph :: rest)
    else (dottedFrom false rest).map (Gap.before [glyph])

/-- Read atoms with single full stops between them. -/
def readDotted (glyphs : List Glyph) : Option (Core × List Glyph) :=
  (dottedFrom true glyphs).map fun (found, rest) => (.dotted found, rest)

/-- Read an encoded word, or else something else. -/
def encodedOr (other : List Glyph → Option (Core × List Glyph)) (glyphs : List Glyph) :
    Option (Core × List Glyph) :=
  match EncodedWord.read glyphs with
  | .ok (found, rest) => some (.encoded found, rest)
  | .error _ => other glyphs

/-- Read a word, given how to read its middle. -/
def readAround (core : List Glyph → Option (Core × List Glyph)) (glyphs : List Glyph) :
    Option (Word × List Glyph) :=
  let (before, glyphs) := Gap.readAny glyphs
  (core glyphs).map fun (core, rest) =>
    let (after, rest) := Gap.readAny rest
    (⟨before, core, after⟩, rest)

/-- Read a word that is an atom or an encoded word. -/
def readPlain : List Glyph → Option (Word × List Glyph) := readAround (encodedOr readAtom)

/-- Read a word that is an encoded word or atoms with full stops between them. -/
def readStopped : List Glyph → Option (Word × List Glyph) := readAround (encodedOr readDotted)

/-- Read the middle of any word. -/
def readCore (glyphs : List Glyph) : Option (Core × List Glyph) :=
  if startsWith '"' glyphs then some (readQuoted (glyphs.drop 1))
  else encodedOr readAtom glyphs

/-- Read any word. -/
def read : List Glyph → Option (Word × List Glyph) := readAround readCore

end Word

/-! ## Names -/

/-- The elements of a name. -/
inductive Element where
  | word (word : Word)
  | stop
  | backslash
  | gap
deriving DecidableEq

namespace Element

/-- What an element stands for. -/
def value : Element → List Glyph
  | .word found => found.value
  | .stop => [.char '.']
  | .backslash => [.char '\\']
  | .gap => [.char ' ']

/-- Read the next element of a name; backslashes are elements only where that is said. -/
def read? (withBackslashes : Bool) (glyphs : List Glyph) : Option (Element × List Glyph) :=
  match glyphs with
  | [] => none
  | glyph :: rest =>
    if withBackslashes ∧ glyph = .char '\\' then some (.backslash, rest)
    else if endsName glyph then none
    else if glyph = .char '.' then some (.stop, rest)
    else
      match Word.read glyphs with
      | some (found, rest) => some (.word found, rest)
      | none => (Gap.read? glyphs).map fun (_, rest) => (.gap, rest)

/-- Read the elements of a name. -/
def readAll : List Glyph → List Element × List Glyph := many (read? false)

/-- The fault of a name that begins or ends with a full stop. -/
def bareStop : Fault := .reported .attribute "'str' object has no attribute 'token_type'"

/-- A name without blanks and comments at its start. -/
def trimStart : List Element → Except Fault (List Element)
  | .gap :: rest => .ok rest
  | .word first :: rest => .ok (.word { first with before := none } :: rest)
  | [] => .ok []
  | _ => .error bareStop

/-- A name, given backwards, without blanks and comments at its end. -/
def trimEnd : List Element → Except Fault (List Element)
  | .gap :: rest => .ok rest
  | .word last :: rest => .ok (.word { last with after := none } :: rest)
  | [] => .error noPart
  | _ => .error bareStop

/-- What a name stands for. -/
def name (elements : List Element) : Except Fault (List Glyph) :=
  if elements.isEmpty then .ok []
  else do
    let trimmed ← trimEnd (← trimStart elements).reverse
    return trimmed.reverse.flatMap value

end Element

end Workflow.Relay
