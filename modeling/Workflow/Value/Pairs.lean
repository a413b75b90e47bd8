import Workflow.Fault

/-!
# Fields given as pairs

An object can be updated by another object, by an array of pairs, or by a text, whose characters
are then its items.  A pair is an array with two items, a text with two characters or an object
with two fields, which stand for their names.  The pairs before a malformed one still take effect.
-/

namespace Workflow.Pairs

open Value (ofName)

/-- The items of a value, in order: those of an array, the characters of a text, the names of an
object's fields. -/
def itemsOf? : Value → Option (List Value)
  | .arr items => some items
  | .str text => some (text.toList.map fun c => .str c.toString)
  | .obj fields => some (fields.map fun field => ofName field.1)
  | _ => none

/-- The name that the first part of a pair stands for. -/
def nameOf (value : Value) : Except Fault Name :=
  match value with
  | .str text => .ok (.text text)
  | .null => .ok .null
  | .bool flag => .ok (.bool flag)
  | .int number => .ok (.int number)
  | .float number => .ok (.float number)
  | .arr _ | .obj _ => .error (.unhashable value.type)

/-- Read the pair at a position. -/
def pairOf (index : Nat) (item : Value) : Except Fault (Name × Value) :=
  match itemsOf? item with
  | none => .error (.notAPair index)
  | some [first, second] => (nameOf first).map (·, second)
  | some parts => .error (.pairLength index parts.length)

/-- Set the fields given by pairs one after the other, from a position on, up to the first that is
malformed. -/
def setFrom (object : Object) : Nat → List Value → Object × Option Fault
  | _, [] => (object, none)
  | index, item :: rest =>
    match pairOf index item with
    | .ok (name, value) => setFrom (Object.set object name value) (index + 1) rest
    | .error fault => (object, some fault)

/-- Update an object, which may stop halfway with a fault. -/
def update (object : Object) : Value → Object × Option Fault
  | .obj fields => (Object.merge object fields, none)
  | value =>
    match itemsOf? value with
    | some items => setFrom object 0 items
    | none => (object, some (.notIterable value.type))

/-- The object that a value denotes; one that is not given counts as empty. -/
def toObject (value : Value) : Except Fault Object :=
  match update [] (value.orElse (.obj [])) with
  | (object, none) => .ok object
  | (_, some fault) => .error fault

end Workflow.Pairs
