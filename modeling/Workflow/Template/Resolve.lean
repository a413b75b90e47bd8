import Workflow.Template.Basic
import Workflow.Path
import Workflow.Json.Writer

/-!
# Resolving templates

When a step runs, the texts in its fields are read against the environment.  A lone slot stands for
the value at its path, other slots are filled in with the text of theirs, a text whose first segment
names a variable is a reference, and any other text is a literal.
-/

namespace Workflow.Template

/-- How a value is filled into a text: nothing for null, JSON for what is not text or a number. -/
def fill : Value → Except Fault String
  | .null => .ok ""
  | .bool flag => Json.write (.bool flag)
  | .arr items => Json.write (.arr items)
  | .obj fields => Json.write (.obj fields)
  | value => value.text

/-- The text of one piece. -/
def Piece.fill (environment : Object) : Piece → Except Fault String
  | .char c => .ok c.toString
  | .slot content => Template.fill (Path.lookup environment (slotPath content))

/-- Fill in pieces one after the other. -/
def fillPieces (environment : Object) : List Piece → Except Fault String
  | [] => .ok ""
  | piece :: rest => do
    let first ← piece.fill environment
    let others ← fillPieces environment rest
    return first ++ others

/-- A text with all its slots filled in. -/
def interpolate (environment : Object) (text : String) : Except Fault String :=
  fillPieces environment (pieces text)

/-- The value that a text in a field stands for. -/
def resolveText (environment : Object) (text : String) : Except Fault Value :=
  match lone? text with
  | some path => .ok (Path.lookup environment path)
  | none =>
    if hasSlot text then (interpolate environment text).map .str
    else if Object.contains environment (Path.root text) then .ok (Path.lookup environment text)
    else .ok (.str text)

mutual

/-- The value that a field stands for. -/
def resolve (environment : Object) : Value → Except Fault Value
  | .str text => resolveText environment text
  | .arr items => do
    let resolved ← resolveItems environment items
    return .arr resolved
  | .obj fields => do
    let resolved ← resolveFields environment fields
    return .obj resolved
  | value => .ok value

/-- Resolve the items of an array in order. -/
def resolveItems (environment : Object) : List Value → Except Fault (List Value)
  | [] => .ok []
  | item :: rest => do
    let first ← resolve environment item
    let others ← resolveItems environment rest
    return first :: others

/-- Resolve the fields of an object in order. -/
def resolveFields (environment : Object) :
    List (Name × Value) → Except Fault (List (Name × Value))
  | [] => .ok []
  | (name, value) :: rest => do
    let first ← resolve environment value
    let others ← resolveFields environment rest
    return (name, first) :: others

end

/-- Resolve a field that holds a mapping; one that is not given counts as empty. -/
def resolveMapping (environment : Object) (value : Value) : Except Fault Value :=
  resolve environment (value.orElse (.obj []))

end Workflow.Template
