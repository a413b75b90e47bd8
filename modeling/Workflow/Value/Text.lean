import Workflow.Fault
import Workflow.Number.Literal
import Workflow.Number.Shortest

/-!
# Values as text

The text of a value: a text is itself, everything else is written the way it would be quoted inside
an array or an object.  It fails only on an integer with too many digits.
-/

namespace Workflow.Value

/-- The text of an integer. -/
def integerText (number : Int) : Except Fault String :=
  if Number.tooLong number then .error .integerTooLong else .ok (Number.intText number)

end Value

/-- The text of a name. -/
def Name.shown : Name → String
  | .text word => word
  | .null => "None"
  | .bool flag => if flag then "True" else "False"
  | .int number => Number.intText number
  | .float number => number.text

namespace Value

/-- The quoted form of a name. -/
def quotedName : Name → Except Fault String
  | .text text => .ok (Text.quoted text)
  | .int number => integerText number
  | name => .ok name.shown

mutual

/-- The quoted form of a value. -/
def quoted : Value → Except Fault String
  | .null => .ok "None"
  | .bool flag => .ok (if flag then "True" else "False")
  | .int number => integerText number
  | .float number => .ok number.text
  | .str text => .ok (Text.quoted text)
  | .arr items => do
    let parts ← quotedItems items
    return "[" ++ ", ".intercalate parts ++ "]"
  | .obj fields => do
    let parts ← quotedFields fields
    return "\x7b" ++ ", ".intercalate parts ++ "\x7d"

/-- The quoted forms of the items of an array. -/
def quotedItems : List Value → Except Fault (List String)
  | [] => .ok []
  | item :: rest => do
    let first ← quoted item
    let others ← quotedItems rest
    return first :: others

/-- The quoted forms of the fields of an object. -/
def quotedFields : List (Name × Value) → Except Fault (List String)
  | [] => .ok []
  | (name, value) :: rest => do
    let quotedName ← quotedName name
    let first ← quoted value
    let others ← quotedFields rest
    return (quotedName ++ ": " ++ first) :: others

end

/-- The text of a value. -/
def text : Value → Except Fault String
  | .str text => .ok text
  | value => quoted value

end Workflow.Value
