import Workflow.Number.Double

/-!
# Values

The dynamic values that flow through a workflow: what a caller sends, what a field holds, what a
step returns and what a document contains.  Integers and doubles are different kinds of number.
Objects keep their fields in order of insertion, and setting a present field keeps its place and the
name under which it was first set.
-/

namespace Workflow

open Number (Double)

/-- The name of a field.  Mostly it is a text; fields that are given as pairs can be named by null,
truth values and numbers as well. -/
inductive Name where
  | text (text : String)
  | null
  | bool (flag : Bool)
  | int (number : Int)
  | float (number : Double)
deriving DecidableEq

instance : Coe String Name := ⟨.text⟩

namespace Name

/-- What tells names apart.  Numbers that are equal by value are one name, with false and true
counting as zero and one. -/
inductive Identity where
  | text (text : String)
  | null
  | whole (number : Int)
  | double (number : Double)
deriving DecidableEq

/-- What tells a name apart from others. -/
def identity : Name → Identity
  | .text word => .text word
  | .null => .null
  | .bool flag => .whole (if flag then 1 else 0)
  | .int number => .whole number
  | .float number =>
    match number.whole? with
    | some whole => .whole whole
    | none => .double number

end Name

/-- A dynamic value. -/
inductive Value where
  | null
  | bool (flag : Bool)
  | int (number : Int)
  | float (number : Double)
  | str (text : String)
  | arr (items : List Value)
  | obj (fields : List (Name × Value))
deriving Inhabited

/-- The fields of an object, in order, each name once. -/
abbrev Object := List (Name × Value)

namespace Object

/-- The value of a field. -/
def get? : Object → Name → Option Value
  | [], _ => none
  | (name, value) :: rest, wanted =>
    if name.identity = wanted.identity then some value else get? rest wanted

/-- Whether a field is present. -/
def contains (object : Object) (name : Name) : Bool := (get? object name).isSome

/-- Set a field: in place when present, at the end when not. -/
def set : Object → Name → Value → Object
  | [], name, value => [(name, value)]
  | (known, old) :: rest, name, value =>
    if known.identity = name.identity then (known, value) :: rest
    else (known, old) :: set rest name value

/-- Remove a field. -/
def erase (object : Object) (name : Name) : Object :=
  object.filter fun field => field.1.identity ≠ name.identity

/-- Set a field only when it is absent. -/
def setDefault (object : Object) (name : Name) (value : Value) : Object :=
  if contains object name then object else object ++ [(name, value)]

/-- Set all fields of `patch`, in its order. -/
def merge (object patch : Object) : Object :=
  patch.foldl (fun merged field => set merged field.1 field.2) object

/-- The object written as a list of fields; of a repeated name the last value counts, at the first
place. -/
def ofFields (fields : List (Name × Value)) : Object := merge [] fields

/-- The names of the fields, in order. -/
def names (object : Object) : List Name := object.map (·.1)

end Object

/-- The types that values have. -/
inductive ValueType where
  | null
  | bool
  | int
  | float
  | str
  | arr
  | obj
deriving DecidableEq

/-- The names that messages use for types. -/
def ValueType.name : ValueType → String
  | .null => "NoneType"
  | .bool => "bool"
  | .int => "int"
  | .float => "float"
  | .str => "str"
  | .arr => "list"
  | .obj => "dict"

namespace Value

/-- The type of a value. -/
def type : Value → ValueType
  | .null => .null
  | .bool _ => .bool
  | .int _ => .int
  | .float _ => .float
  | .str _ => .str
  | .arr _ => .arr
  | .obj _ => .obj

/-- Null, false, zero and whatever is empty do not count as given. -/
def isTruthy : Value → Bool
  | .null => false
  | .bool flag => flag
  | .int number => number != 0
  | .float number => !number.isZero
  | .str text => !text.isEmpty
  | .arr items => !items.isEmpty
  | .obj fields => !fields.isEmpty

/-- A value, or `fallback` when it does not count as given. -/
def orElse (value fallback : Value) : Value := if value.isTruthy then value else fallback

/-- The field of an object, null when absent. -/
def field (object : Object) (name : Name) : Value := (Object.get? object name).getD .null

/-- An optional text as a value. -/
def ofText? : Option String → Value
  | none => .null
  | some text => .str text

/-- A list of texts as a value. -/
def ofTexts (texts : List String) : Value := .arr (texts.map .str)

/-- A name as a value. -/
def ofName : Name → Value
  | .text text => .str text
  | .null => .null
  | .bool flag => .bool flag
  | .int number => .int number
  | .float number => .float number

/-- A natural number as a value. -/
def ofNat (number : Nat) : Value := .int number

end Value

end Workflow
