import Workflow.Fault
import Workflow.Text.Glyph
import Workflow.Text.Lines

/-!
# Reading headers

A header of a mail is one line.  Its parts are read from left to right: a reading takes the glyphs
of a part off the front.  A part that is not there leaves room for another reading of the same
glyphs; a header that ends or turns where no reading expects it to is broken.
-/

namespace Workflow.Relay

open Text (Glyph)

/-- Whether a text may stand in a header: it has one line at most. -/
def isHeaderText (text : String) : Bool := (Text.lines text).length ≤ 1

/-- What ends the reading of a part. -/
inductive Stop where
  /-- The part is not there. -/
  | absent
  /-- The header is broken. -/
  | broken (cause : Fault)
deriving DecidableEq

namespace Stop

/-- The header ends where a glyph is needed. -/
def endOfHeader : Stop := .broken (.reported .index "string index out of range")

/-- The header has a domain in brackets that are never closed. -/
def openBracket : Stop :=
  .broken (.reported .attribute "'InvalidHeaderDefect' object has no attribute 'all_defects'")

/-- The header ends after an opening bracket and blanks. -/
def emptyBracket : Stop :=
  .broken (.reported .unassigned
    "cannot access local variable 'pos' where it is not associated with a value")

/-- A name begins with a full stop after blanks or a comment. -/
def leadingStop : Stop :=
  .broken (.reported .type "'ValueTerminal' object does not support item assignment")

end Stop

/-- A part that an empty list of parts lacks. -/
def noPart : Fault := .reported .index "list index out of range"

/-- What a reading finds, and the glyphs after it. -/
abbrev Reading (α : Type) := Except Stop (α × List Glyph)

/-- Read in a second way what is not there in the first. -/
def orElse {α : Type} (first second : Except Stop α) : Except Stop α :=
  match first with
  | .error .absent => second
  | _ => first

/-- Whether a glyph is a space or a tab. -/
def isSpace (glyph : Glyph) : Bool := glyph.isOneOf [' ', '\t']

/-- Whether the glyphs begin with a character. -/
def startsWith (c : Char) : List Glyph → Bool
  | .char first :: _ => first = c
  | _ => false

/-- The glyphs without this character at their front. -/
def dropOne (c : Char) (glyphs : List Glyph) : List Glyph :=
  if startsWith c glyphs then glyphs.drop 1 else glyphs

/-- Take a step again and again while it applies and shortens the glyphs: what the steps find, and
the glyphs left over. -/
def many {α : Type} (step : List Glyph → Option (α × List Glyph)) (glyphs : List Glyph) :
    List α × List Glyph :=
  match step glyphs with
  | none => ([], glyphs)
  | some (found, rest) =>
    if _h : rest.length < glyphs.length then
      let others := many step rest
      (found :: others.1, others.2)
    else ([], glyphs)
termination_by glyphs.length

/-- Take a step that may fail again and again while it applies and shortens the glyphs. -/
def manyOrFail {ε α : Type} (step : List Glyph → Except ε (Option (α × List Glyph)))
    (glyphs : List Glyph) : Except ε (List α × List Glyph) :=
  match step glyphs with
  | .error failure => .error failure
  | .ok none => .ok ([], glyphs)
  | .ok (some (found, rest)) =>
    if _h : rest.length < glyphs.length then
      (manyOrFail step rest).map fun others => (found :: others.1, others.2)
    else .ok ([], glyphs)
termination_by glyphs.length

end Workflow.Relay
