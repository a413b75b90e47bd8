import Workflow.Value.Text

/-!
# Values in strict JSON

Strict JSON has no infinities and no NaN, and names its fields by texts.  The wire form of a record
therefore carries null wherever a free-form value holds one of those numbers, and a text for every
name; of fields that come to have one name the last counts.  Every other value is its own strict
form.
-/

namespace Workflow

/-- The text that a name is on the wire. -/
def Name.wireText : Name → String
  | .text word => word
  | .bool flag => if flag then "true" else "false"
  | .float number => if number.isFinite then number.text else "None"
  | name => name.shown

namespace Value

mutual

/-- The strict form of a value. -/
def strict : Value → Value
  | .float number => if number.isFinite then .float number else .null
  | .arr items => .arr (strictItems items)
  | .obj fields => .obj (Object.ofFields (strictFields fields))
  | value => value

/-- The strict forms of the items of an array. -/
def strictItems : List Value → List Value
  | [] => []
  | item :: rest => strict item :: strictItems rest

/-- The fields of an object in strict form. -/
def strictFields : List (Name × Value) → List (Name × Value)
  | [] => []
  | (name, value) :: rest => (.text name.wireText, strict value) :: strictFields rest

end

end Value

end Workflow
