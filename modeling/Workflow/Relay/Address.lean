import Workflow.Relay.Mailbox

/-!
# Addresses

The addresses in a header are set apart by commas.  An address is a mailbox, or a group: a name, a
colon and mailboxes up to a semicolon.  They are written in one way however they were given: names
are quoted only when they have to be, and an address that cannot be read is a pair of angle
brackets.
-/

namespace Workflow.Relay

open Text (Glyph)

/-- An entry of a list. -/
inductive Entry (α : Type) where
  | empty
  | unreadable
  | found (item : α)
  /-- More follows the item than a list allows. -/
  | followed (item : α)
deriving DecidableEq

namespace Entry

/-- Take off what comes before the end of an entry, in the order of names. -/
def skipPart? (isEnd : Glyph → Bool) (glyphs : List Glyph) : Option (Unit × List Glyph) :=
  match glyphs with
  | [] => none
  | glyph :: rest =>
    if isEnd glyph then none
    else if endsName glyph then some ((), rest)
    else some ((), (Element.readAll glyphs).2)

/-- The glyphs from the end of an entry on; an ending glyph in quotation marks or a comment is
none. -/
def skipTo (isEnd : Glyph → Bool) (glyphs : List Glyph) : List Glyph :=
  (many (skipPart? isEnd) glyphs).2

/-- Whether an entry ends here. -/
def isOver (isEnd : Glyph → Bool) : List Glyph → Bool
  | [] => true
  | glyph :: _ => isEnd glyph

/-- Read an entry and the comma after it, given how to read an item. -/
def read {α : Type} (isEnd : Glyph → Bool) (item : List Glyph → Reading α) (glyphs : List Glyph) :
    Except Fault (Entry α × List Glyph) :=
  match item glyphs with
  | .error (.broken cause) => .error cause
  | .ok (value, rest) =>
    if isOver isEnd rest then .ok (.found value, dropOne ',' rest)
    else .ok (.followed value, dropOne ',' (skipTo isEnd rest))
  | .error .absent =>
    let rest := Gap.skip glyphs
    if isOver isEnd rest then .ok (.empty, dropOne ',' rest)
    else .ok (.unreadable, dropOne ',' (skipTo isEnd rest))

end Entry

/-- What a header names in one place; a mailbox that cannot be read is none. -/
inductive Address where
  | mailbox (mailbox : Option Mailbox)
  | group (name : List Element) (members : List (Option Mailbox))
  /-- A group that more follows than a list allows. -/
  | brokenGroup (name : List Element)
deriving DecidableEq

namespace Address

/-! ## Reading -/

/-- The member of a group in an entry. -/
def member? : Entry Mailbox → Option (Option Mailbox)
  | .empty => none
  | .unreadable => some none
  | .found item | .followed item => some (some item)

/-- Whether a list of members ends an entry here. -/
def endsMember (glyph : Glyph) : Bool := glyph.isOneOf [',', ';']

/-- Read the next member of a group, up to the end of the group. -/
def readMember (glyphs : List Glyph) : Except Fault (Option (Entry Mailbox × List Glyph)) :=
  if glyphs.isEmpty || startsWith ';' glyphs then .ok none
  else (Entry.read endsMember Mailbox.read glyphs).map some

/-- Read a group. -/
def readGroup (glyphs : List Glyph) : Reading Address :=
  let (name, rest) := Element.readAll glyphs
  if startsWith ':' rest then
    let rest := rest.drop 1
    if startsWith ';' rest then .ok (.group name [], rest.drop 1)
    else
      match manyOrFail readMember (Gap.skip rest) with
      | .error cause => .error (.broken cause)
      | .ok (members, rest) =>
        .ok (.group name (members.filterMap member?), Gap.skip (rest.drop 1))
  else .error .absent

/-- Read an address. -/
def read (glyphs : List Glyph) : Reading Address :=
  orElse (readGroup glyphs)
    ((Mailbox.read glyphs).map fun (found, rest) => (.mailbox (some found), rest))

/-- The address in an entry.  A group that more follows is no group any more. -/
def ofEntry? : Entry Address → Option Address
  | .empty => none
  | .unreadable => some (.mailbox none)
  | .followed (.group name _) => some (.brokenGroup name)
  | .found address | .followed address => some address

/-- Read the next address, up to the end. -/
def readNext (glyphs : List Glyph) : Except Fault (Option (Entry Address × List Glyph)) :=
  if glyphs.isEmpty then .ok none
  else (Entry.read (·.isOneOf [',']) read glyphs).map some

/-- The addresses in a header. -/
def readAll (text : String) : Except Fault (List Address) :=
  (manyOrFail readNext (Glyph.ofText text)).map fun (entries, _) => entries.filterMap ofEntry?

/-! ## Writing -/

/-- A text, in quotation marks if it has characters with a meaning of their own. -/
def quoteIfNeeded (marks : List Char) (glyphs : List Glyph) : List Glyph :=
  if glyphs.any (·.isOneOf marks) then Glyph.quote glyphs else glyphs

/-- The characters that a local part has only in quotation marks. -/
def localMarks : List Char := [' ', '\t'] ++ specials.filter (· ≠ '.')

/-- A local part and a domain as they are written; there may be neither. -/
def writeBare (localPart domain : List Glyph) : List Glyph :=
  quoteIfNeeded localMarks localPart ++ if domain.isEmpty then [] else .char '@' :: domain

/-- A name, a local part and a domain as they are written. -/
def writeParts (name localPart domain : List Glyph) : List Glyph :=
  let bare := writeBare localPart domain
  if !name.isEmpty then
    quoteIfNeeded specials name ++ Glyph.ofText " <" ++ bare ++ [.char '>']
  else if bare.isEmpty then Glyph.ofText "<>"
  else bare

/-- A mailbox as it is written. -/
def writeMailbox : Option Mailbox → Except Fault (List Glyph)
  | none => .ok (writeParts [] [] [])
  | some given => do
    let name ← (given.name.map Element.name).getD (.ok [])
    let localPart ← (given.localPart.map LocalPart.value).getD (.ok [])
    if (name ++ localPart ++ given.domain).any (·.isOneOf ['\r', '\n']) then
      throw (.reported .value "invalid arguments; address parts cannot contain CR or LF")
    else return writeParts name localPart given.domain

/-- Texts with a comma and a blank between them. -/
def commaSeparated (texts : List (List Glyph)) : List Glyph :=
  (Glyph.ofText ", ").intercalate texts

/-- An address as it is written. -/
def write : Address → Except Fault (List Glyph)
  | .mailbox given => writeMailbox given
  | .group name members => do
    let name ← Element.name name
    let members ← members.mapM writeMailbox
    let inside := if members.isEmpty then [] else .char ' ' :: commaSeparated members
    return quoteIfNeeded specials name ++ .char ':' :: inside ++ [.char ';']
  | .brokenGroup name => do
    let _ ← Element.name name
    throw (.reported .attribute "'Group' object has no attribute 'local_part'")

/-! ## Limits -/

/-- How deep comments stand in one another, from inside `depth` of them on; those in quotation marks
are none. -/
def commentDepth (depth : Nat) (isQuoted isEscaped : Bool) : List Glyph → Nat
  | [] => depth
  | glyph :: rest =>
    if isEscaped then commentDepth depth isQuoted false rest
    else if glyph = .char '\\' then commentDepth depth isQuoted true rest
    else if isQuoted then commentDepth depth (glyph ≠ .char '"') false rest
    else if glyph = .char '(' then commentDepth (depth + 1) false false rest
    else if glyph = .char ')' then max depth (commentDepth (depth - 1) false false rest)
    else commentDepth depth (glyph = .char '"' && depth = 0) false rest

/-- The deepest comments that can be read. -/
def maxReadDepth : Nat := 950

/-- The deepest comments that can be gone through once they are read. -/
def maxDepth : Nat := 315

/-- The fault of comments that stand too deep in one another. -/
def tooDeep (occasion : String) : Fault :=
  .reported .recursion ("maximum recursion depth exceeded" ++ occasion)

/-- The addresses in a header, all written in one way. -/
def rewriteAll (text : String) : Except Fault String := do
  let depth := commentDepth 0 false false (Glyph.ofText text)
  if maxReadDepth < depth then throw (tooDeep " while calling a Python object")
  let written ← (← readAll text).mapM write
  if maxDepth < depth then throw (tooDeep "")
  return Glyph.text (commaSeparated written)

end Address

end Workflow.Relay
