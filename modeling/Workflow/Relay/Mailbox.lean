import Workflow.Relay.Word

/-!
# Mailboxes

A mailbox is a local part, usually with a domain after an at sign, and perhaps a name before it;
with a name it stands in angle brackets.  Much that is not quite a mailbox is still read as one:
blanks and comments may stand anywhere, words and full stops may follow each other freely in a local
part, and the closing angle bracket may be missing.
-/

namespace Workflow.Relay

open Text (Glyph)

/-- What stands before the at sign of a mailbox: one word, or anything that words, full stops and
backslashes make. -/
inductive LocalPart where
  | single (word : Word)
  | elements (elements : List Element)
deriving DecidableEq

namespace LocalPart

/-- Whether a full stop comes next, or nothing does. -/
def stopFollows : List Element → Bool
  | [] => true
  | .gap :: rest => stopFollows rest
  | .stop :: _ => true
  | _ => false

/-- A word without the blanks and comments beside full stops. -/
def besideStops (afterStop beforeStop : Bool) (word : Word) : Word :=
  { word with
    before := if afterStop then none else word.before
    after := if beforeStop then none else word.after }

/-- What elements stand for, without blanks and comments beside full stops and at both ends;
`afterStop` says whether a full stop or nothing precedes. -/
def join (afterStop : Bool) : List Element → List Glyph
  | [] => []
  | .gap :: rest => join afterStop rest
  | .stop :: rest => .char '.' :: join true rest
  | .backslash :: rest => .char '\\' :: join false rest
  | .word found :: rest =>
    (besideStops afterStop (stopFollows rest) found).value ++ join false rest

/-- What a local part stands for. -/
def value : LocalPart → Except Fault (List Glyph)
  | .single found => if found.core.isHollow then .error noPart else .ok found.core.value
  | .elements found => .ok (join true found)

/-- Read a local part as elements. -/
def readElements (glyphs : List Glyph) : Reading LocalPart :=
  match many (Element.read? true) glyphs with
  | ([], _) | ([.gap], _) => .error (.broken noPart)
  | (found, rest) => .ok (.elements found, rest)

/-- Whether a local part goes on here. -/
def goesOn : List Glyph → Bool
  | [] => false
  | glyph :: _ => glyph = .char '\\' || !endsName glyph

/-- Read a local part.  What goes on after one word is read again as elements, from how the word is
written. -/
def read (glyphs : List Glyph) : Reading LocalPart :=
  if glyphs.isEmpty then .error .endOfHeader
  else
    let (before, glyphs) := Gap.readAny glyphs
    match Word.readStopped glyphs <|> Word.read glyphs with
    | some (found, rest) =>
      if goesOn rest then readElements (before.getD [] ++ found.written ++ rest)
      else .ok (.single { found with before := before }, rest)
    | none =>
      if goesOn glyphs then readElements (before.getD [] ++ glyphs) else .error .absent

end LocalPart

/-- A domain, and whether its brackets are closed if it has some. -/
structure Domain where
  glyphs : List Glyph
  isClosed : Bool := true
deriving DecidableEq

namespace Domain

/-- Whether a glyph is a bracket. -/
def isBracket (glyph : Glyph) : Bool := glyph.isOneOf ['[', ']']

/-- The glyphs after blanks, if a space or a tab begins them. -/
def skipBlanks : List Glyph → List Glyph
  | [] => []
  | glyph :: rest =>
    if isSpace glyph then rest.dropWhile (·.isBlank) else glyph :: rest

/-- Read a domain in brackets, after the opening one. -/
def readBracketed (glyphs : List Glyph) : Reading Domain :=
  let unclosed := (⟨[], false⟩, [])
  if glyphs.isEmpty then .ok unclosed
  else
    let inner := skipBlanks glyphs
    if inner.isEmpty then .error .emptyBracket
    else
      let (found, rest) := literal isBracket false inner
      match skipBlanks rest with
      | [] => .ok unclosed
      | glyph :: rest =>
        if glyph = .char ']' then
          .ok (⟨Glyph.withoutBlanks (.char '[' :: found ++ [.char ']']), true⟩, Gap.skip rest)
        else .error .absent

/-- Read a full stop and a word after it. -/
def readFurther? (glyphs : List Glyph) : Option (Word × List Glyph) :=
  if startsWith '.' glyphs then Word.readPlain (glyphs.drop 1) else none

/-- The glyphs of a domain that consists of words. -/
def ofWords (words : List Word) : List Glyph :=
  [Glyph.char '.'].intercalate (words.map fun found => Glyph.withoutBlanks found.value)

/-- Read a domain. -/
def read (glyphs : List Glyph) : Reading Domain :=
  if glyphs.isEmpty then .error .endOfHeader
  else
    let glyphs := Gap.skip glyphs
    if startsWith '[' glyphs then readBracketed (glyphs.drop 1)
    else
      match Word.readStopped glyphs <|> Word.readPlain glyphs with
      | none => .error .absent
      | some (first, rest) =>
        if startsWith '@' rest then .error .absent
        else
          let (others, rest) := many readFurther? rest
          if startsWith '.' rest then .error .absent
          else .ok (⟨ofWords (first :: others), true⟩, rest)

end Domain

/-- What a header says of a mailbox; in empty angle brackets there is no local part. -/
structure Mailbox where
  name : Option (List Element) := none
  localPart : Option LocalPart := none
  domain : List Glyph := []
deriving DecidableEq

namespace Mailbox

/-- Read a mailbox without a name: a local part and maybe a domain. -/
def readBare (glyphs : List Glyph) : Except Stop (Mailbox × List Glyph) := do
  let (found, rest) ← LocalPart.read glyphs
  if startsWith '@' rest then
    let (domain, rest) ← Domain.read (rest.drop 1)
    if domain.isClosed then
      return ({ localPart := some found, domain := domain.glyphs }, rest)
    else throw .openBracket
  else return ({ localPart := some found }, rest)

/-- Read what may stand between the domains of a route. -/
def routeGap? (glyphs : List Glyph) : Option (Unit × List Glyph) :=
  if startsWith ',' glyphs then some ((), glyphs.drop 1)
  else (Gap.read? glyphs).map fun (_, rest) => ((), rest)

/-- Read a comma of a route and, if there is one, the domain after it. -/
def routeDomain? (glyphs : List Glyph) : Except Stop (Option (Unit × List Glyph)) :=
  if startsWith ',' glyphs then
    let rest := glyphs.drop 1
    if rest.isEmpty then .ok (some ((), []))
    else
      let rest := Gap.skip rest
      if rest.isEmpty then .error .endOfHeader
      else if startsWith '@' rest then
        (Domain.read (rest.drop 1)).map fun (_, rest) => some ((), rest)
      else .ok (some ((), rest))
  else .ok none

/-- The glyphs after a route: domains with at signs, set apart by commas and ended by a colon. -/
def skipRoute (glyphs : List Glyph) : Except Stop (List Glyph) := do
  let glyphs := (many routeGap? glyphs).2
  if startsWith '@' glyphs then
    let (_, rest) ← Domain.read (glyphs.drop 1)
    let (_, rest) ← manyOrFail routeDomain? rest
    if startsWith ':' rest then return rest.drop 1 else throw .absent
  else throw .absent

/-- Read a mailbox in angle brackets, perhaps with a route before it. -/
def readBracketed (glyphs : List Glyph) : Except Stop (Mailbox × List Glyph) :=
  let glyphs := Gap.skip glyphs
  if startsWith '<' glyphs then
    let inner := glyphs.drop 1
    if inner.isEmpty then .error .endOfHeader
    else if startsWith '>' inner then .ok ({}, inner.drop 1)
    else do
      let (found, rest) ← orElse (readBare inner) (skipRoute inner >>= readBare)
      return (found, Gap.skip (dropOne '>' rest))
  else .error .absent

/-- A name with blanks and comments before it. -/
def nameAfter (gap : Option (List Glyph)) : List Element → Except Stop (List Element)
  | .word first :: rest => .ok (.word { first with before := gap <|> first.before } :: rest)
  | .stop :: rest => if gap.isSome then .error .leadingStop else .ok (.stop :: rest)
  | elements => .ok elements

/-- Read a mailbox in angle brackets, perhaps with a name before it. -/
def readNamed (glyphs : List Glyph) : Except Stop (Mailbox × List Glyph) :=
  let (gap, glyphs) := Gap.readAny glyphs
  match glyphs with
  | [] => .error .absent
  | glyph :: _ =>
    if glyph = .char '<' then readBracketed glyphs
    else if endsName glyph then .error .absent
    else
      let (name, rest) := Element.readAll glyphs
      if rest.isEmpty then .error .absent
      else do
        let name ← nameAfter gap name
        let (found, rest) ← readBracketed rest
        return ({ found with name := some name }, rest)

/-- Read a mailbox. -/
def read (glyphs : List Glyph) : Reading Mailbox := orElse (readNamed glyphs) (readBare glyphs)

end Mailbox

end Workflow.Relay
