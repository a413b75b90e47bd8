import Workflow.Value.Text

/-!
# Writing JSON

One line.  What stands between the parts is a matter of style, and so is whether characters outside
ASCII are written as UTF-16 units or as they are, and how doubles are laid out.  The numbers that JSON
lacks are written as `NaN`, `Infinity` and `-Infinity`.
-/

namespace Workflow.Json

open Text (hex)

/-- The UTF-16 escape of a character. -/
def unicodeEscape (c : Char) : List Char :=
  if c.toNat < 0x10000 then '\\' :: 'u' :: hex 4 c.toNat
  else
    let offset := c.toNat - 0x10000
    '\\' :: 'u' :: hex 4 (0xd800 + offset / 0x400) ++
      '\\' :: 'u' :: hex 4 (0xdc00 + offset % 0x400)

/-- A double, by its shortest digits. -/
def writeDouble (x : Number.Double) : String :=
  if x.isNaN then "NaN"
  else if x.isInfinite then (if x.isNegative then "-Infinity" else "Infinity")
  else x.text

/-- How a JSON text is written: what sets its parts apart, whether it is to be ASCII only, and how
doubles are laid out. -/
structure Style where
  item : String
  field : String
  ascii : Bool := true
  double : Number.Double → String := writeDouble

/-- A blank after each comma and colon. -/
def spaced : Style := { item := ", ", field := ": " }

/-- No blanks at all. -/
def compact : Style := { item := ",", field := ":" }

/-- No blanks, and characters outside ASCII as they are. -/
def plain : Style := { compact with ascii := false }

/-- One character of a JSON string. -/
def escapeChar (style : Style) (c : Char) : List Char :=
  if c = '"' ∨ c = '\\' then ['\\', c]
  else if 0x20 ≤ c.toNat ∧ (c.toNat ≤ 0x7e ∨ style.ascii = false) then [c]
  else if c = '\n' then ['\\', 'n']
  else if c = '\r' then ['\\', 'r']
  else if c = '\t' then ['\\', 't']
  else if c.toNat = 0x0c then ['\\', 'f']
  else if c.toNat = 0x08 then ['\\', 'b']
  else unicodeEscape c

/-- A JSON string. -/
def writeString (style : Style) (text : String) : String :=
  String.ofList ('"' :: text.toList.flatMap (escapeChar style) ++ ['"'])

/-- The text of a name, between the quotes of a JSON string. -/
def nameText : Name → Except Fault String
  | .text text => .ok text
  | .null => .ok "null"
  | .bool flag => .ok (if flag then "true" else "false")
  | .int number => Value.integerText number
  | .float number => .ok (writeDouble number)

/-- The most arrays and objects that are written inside one another.  JSON sets no such limit: the
writer gives up when the stack is full, so how deep it gets depends on the calls in progress.  The
number is assumed of a writer that is called near the bottom of a stack of a thousand calls. -/
def writingDepth : Nat := 973

/-- The fault of a value with more arrays and objects inside one another than can be written. -/
def tooDeep : Fault :=
  .reported .recursion "maximum recursion depth exceeded while encoding a JSON object"

mutual

/-- The JSON text of a value, with at most `depth` arrays and objects inside one another; it fails on
more of them and on an integer with too many digits. -/
def writeWith (style : Style) (depth : Nat) : Value → Except Fault String
  | .null => .ok "null"
  | .bool flag => .ok (if flag then "true" else "false")
  | .int number => Value.integerText number
  | .float number => .ok (style.double number)
  | .str text => .ok (writeString style text)
  | .arr items =>
    if depth = 0 then .error tooDeep
    else do
      let parts ← writeItems style (depth - 1) items
      return "[" ++ style.item.intercalate parts ++ "]"
  | .obj fields =>
    if depth = 0 then .error tooDeep
    else do
      let parts ← writeFields style (depth - 1) fields
      return "\x7b" ++ style.item.intercalate parts ++ "\x7d"

/-- The JSON texts of the items of an array. -/
def writeItems (style : Style) (depth : Nat) : List Value → Except Fault (List String)
  | [] => .ok []
  | item :: rest => do
    let first ← writeWith style depth item
    let others ← writeItems style depth rest
    return first :: others

/-- The JSON texts of the fields of an object. -/
def writeFields (style : Style) (depth : Nat) : List (Name × Value) → Except Fault (List String)
  | [] => .ok []
  | (name, value) :: rest => do
    let text ← nameText name
    let first ← writeWith style depth value
    let others ← writeFields style depth rest
    return (writeString style text ++ style.field ++ first) :: others

end

/-- The JSON text of a value. -/
def write (value : Value) : Except Fault String := writeWith spaced writingDepth value

end Workflow.Json
