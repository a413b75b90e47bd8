import Workflow.Template.Basic
import Workflow.Path

/-!
# Canonical templates

When a graph is compiled, every slot's path is made canonical: a path that starts with a declared
input variable is moved into the input namespace.  A lone slot becomes its bare path.
-/

namespace Workflow.Template

/-- Put declared input variables into the input namespace; every other path stays. -/
def canonicalPath (path : String) (declared : List String) : String :=
  if declared.contains (Path.root path) then "input." ++ path else path

/-- A piece with its path made canonical. -/
def Piece.canonical (declared : List String) : Piece → String
  | .char c => c.toString
  | .slot content => "\x7b\x7b" ++ canonicalPath (slotPath content) declared ++ "\x7d\x7d"

/-- A text with its slots made canonical. -/
def canonicalText (declared : List String) (text : String) : String :=
  match lone? text with
  | some path => canonicalPath path declared
  | none => String.join ((pieces text).map (Piece.canonical declared))

mutual

/-- A value with the slots in all its texts made canonical; names of fields stay. -/
def canonical (declared : List String) : Value → Value
  | .str text => .str (canonicalText declared text)
  | .arr items => .arr (canonicalItems declared items)
  | .obj fields => .obj (canonicalFields declared fields)
  | value => value

/-- The items of an array with their slots made canonical. -/
def canonicalItems (declared : List String) : List Value → List Value
  | [] => []
  | item :: rest => canonical declared item :: canonicalItems declared rest

/-- The fields of an object with their slots made canonical. -/
def canonicalFields (declared : List String) : List (Name × Value) → List (Name × Value)
  | [] => []
  | (name, value) :: rest => (name, canonical declared value) :: canonicalFields declared rest

end

end Workflow.Template
