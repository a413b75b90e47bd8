import Workflow.Value.Basic
import Workflow.Number.Literal

/-!
# Reading records

Records arrive as objects.  Reading one checks every field against its rule and reports all
violations at once, in the order in which the fields are declared.  A field may be given under its
wire name or under its declared name; the wire name wins, and a violation is placed at the name
under which the field was found.
-/

namespace Workflow.Record

open Number (Double)

-- Powers are those of the core library, whatever else is imported.
attribute [local instance(high)] instPowNat

/-- The rules a value can violate. -/
inductive Rule where
  | missing
  | text
  | object
  | list
  | model
  | modelAttributes
  | choice
  | integer
  | integerText
  | integerTextSize
  | integerFraction
  | finiteNumber
  | number
  | numberText
  | dateTime
  | dateTimeText
  | dateTimeRange
  | json
deriving DecidableEq

/-- The names by which reports call the rules. -/
def Rule.name : Rule → String
  | .missing => "missing"
  | .text => "string_type"
  | .object => "dict_type"
  | .list => "list_type"
  | .model => "model_type"
  | .modelAttributes => "model_attributes_type"
  | .choice => "enum"
  | .integer => "int_type"
  | .integerText => "int_parsing"
  | .integerTextSize => "int_parsing_size"
  | .integerFraction => "int_from_float"
  | .finiteNumber => "finite_number"
  | .number => "float_type"
  | .numberText => "float_parsing"
  | .dateTime => "datetime_type"
  | .dateTimeText => "datetime_from_date_parsing"
  | .dateTimeRange => "datetime_parsing"
  | .json => "json_invalid"

/-- One step on the way to the place of a violation. -/
inductive Place where
  | field (name : String)
  | item (index : Nat)
deriving DecidableEq

/-- A violated rule and the way to where it is violated. -/
structure Violation where
  rule : Rule
  places : List Place
deriving DecidableEq

/-- The same violation seen from one level up. -/
def Violation.within (place : Place) (violation : Violation) : Violation :=
  { violation with places := place :: violation.places }

/-- Either a value read, or all violations. -/
abbrev Checked (α : Type) := Except (List Violation) α

namespace Checked

/-- A violation right here. -/
def violated {α : Type} (rule : Rule) : Checked α := .error [⟨rule, []⟩]

/-- Move violations one level down. -/
def within {α : Type} (place : Place) (checked : Checked α) : Checked α :=
  checked.mapError (List.map (Violation.within place))

/-- Combine two independent readings; the violations of both are reported. -/
def both {α β γ : Type} (combine : α → β → γ) (first : Checked α) (second : Checked β) :
    Checked γ :=
  match first, second with
  | .ok a, .ok b => .ok (combine a b)
  | .error violations, .ok _ => .error violations
  | .ok _, .error violations => .error violations
  | .error violations, .error others => .error (violations ++ others)

/-- Apply a function read so far to one more reading. -/
def apply {α β : Type} (function : Checked (α → β)) (argument : Checked α) : Checked β :=
  both (fun f a => f a) function argument

end Checked

/-- The two names of a field. -/
structure FieldName where
  wire : String
  declared : String

/-- A field with one name. -/
def FieldName.plain (name : String) : FieldName := ⟨name, name⟩

/-- Find a field: the name it was found under and its value. -/
def find? (object : Object) (name : FieldName) : Option (String × Value) :=
  match Object.get? object name.wire with
  | some value => some (name.wire, value)
  | none => (Object.get? object name.declared).map (name.declared, ·)

/-- Read a field that has to be there. -/
def required {α : Type} (object : Object) (name : FieldName) (read : Value → Checked α) :
    Checked α :=
  match find? object name with
  | some (found, value) => (read value).within (.field found)
  | none => .error [⟨.missing, [.field name.wire]⟩]

/-- Read a field that may be absent. -/
def optional {α : Type} (object : Object) (name : FieldName) (fallback : α)
    (read : Value → Checked α) : Checked α :=
  match find? object name with
  | some (found, value) => (read value).within (.field found)
  | none => .ok fallback

/-- A text. -/
def text : Value → Checked String
  | .str text => .ok text
  | _ => .violated .text

/-- An object with any fields. -/
def object : Value → Checked Object
  | .obj fields => .ok fields
  | _ => .violated .object

/-- Null, or something that can be read. -/
def nullable {α : Type} (read : Value → Checked α) : Value → Checked (Option α)
  | .null => .ok none
  | value => (read value).map some

/-- Read the items of a list from a position on. -/
def itemsFrom {α : Type} (read : Value → Checked α) : Nat → List Value → Checked (List α)
  | _, [] => .ok []
  | index, item :: rest =>
    Checked.both List.cons ((read item).within (.item index)) (itemsFrom read (index + 1) rest)

/-- A list of things that can be read. -/
def list {α : Type} (read : Value → Checked α) : Value → Checked (List α)
  | .arr items => itemsFrom read 0 items
  | _ => .violated .list

/-- A model: an object whose fields are then read.  `rule` is what any other value violates. -/
def model {α : Type} (rule : Rule) (read : Object → Checked α) : Value → Checked α
  | .obj fields => read fields
  | _ => .violated rule

/-- A plain integer: an optional minus and ASCII digits, the first of which is zero only in zero
itself.  Too long a run of digits counts before whatever follows it. -/
def plainInteger (chars : List Char) : Checked Int :=
  let (negative, body) := match chars with
    | '-' :: rest => (true, rest)
    | rest => (false, rest)
  let digits := body.takeWhile Char.isDigit
  let size : Int := Text.ofDigits 10 (digits.map fun c => c.toNat - '0'.toNat)
  let number := if negative then -size else size
  if body.head? = some '0' then if body = ['0'] then .ok number else .violated .integerText
  else if Number.maxDigits + (if negative then 0 else 1) ≤ digits.length then
    .violated .integerTextSize
  else if digits.isEmpty || digits.length != body.length then .violated .integerText
  else .ok number

/-- What is left of a number after zeros, and underscores among them; the last of them stays when
nothing or a fraction follows. -/
def afterZeros (last : Char) : List Char → Option (List Char)
  | [] => some [last]
  | c :: rest =>
    if c = '0' ∨ c = '_' then afterZeros c rest
    else if c.isDigit ∨ c = '-' then some (c :: rest)
    else if c = '.' then some (last :: c :: rest)
    else none

/-- A number without needless zeros at its front. -/
def withoutZeros : List Char → Option (List Char)
  | '0' :: rest => afterZeros '0' rest
  | c :: rest => if c.isDigit ∨ c = '-' then some (c :: rest) else none
  | [] => none

/-- Remove a fraction that consists of zeros only, at least one. -/
def dropZeroFraction (chars : List Char) : List Char :=
  match chars.dropWhile (· ≠ '.') with
  | '.' :: '0' :: zeros =>
    if zeros.all (· = '0') then chars.takeWhile (· ≠ '.') else chars
  | _ => chars

/-- Whether underscores stand only between other characters, one at a time. -/
def hasLoneUnderscores : List Char → Bool
  | [] => true
  | ['_'] => false
  | '_' :: '_' :: _ => false
  | _ :: rest => hasLoneUnderscores rest

/-- The characters without their underscores, when these stand between others one at a time. -/
def joinUnderscores (chars : List Char) : List Char :=
  if chars.head? ≠ some '_' && hasLoneUnderscores chars then chars.filter (· ≠ '_') else chars

/-- The plain form of an integer's text: no blanks around it, no plus, no needless zeros, no
fraction of zeros and no underscores. -/
def cleanInteger? (chars : List Char) : Option (List Char) :=
  match Text.trimChars Number.isNumberBlank chars with
  | '-' :: rest =>
    (withoutZeros rest).map fun body => joinUnderscores ('-' :: dropZeroFraction body)
  | '+' :: '-' :: _ => none
  | '+' :: rest => (withoutZeros rest).map fun body => joinUnderscores (dropZeroFraction body)
  | rest => (withoutZeros rest).map fun body => joinUnderscores (dropZeroFraction body)

/-- An integer written as text. -/
def integerOfText (written : String) : Checked Int :=
  match plainInteger written.toList with
  | .ok number => .ok number
  | .error violations =>
    if violations = [⟨.integerTextSize, []⟩] then .error violations
    else
      match cleanInteger? written.toList with
      | some chars => plainInteger chars
      | none => .violated .integerText

/-- An integer given as a double: finite, without a fraction, and of a magnitude below 2 ^ 63. -/
def integerOfDouble (number : Double) : Checked Int :=
  if !number.isFinite then .violated .finiteNumber
  else if number.ratio.1 % number.ratio.2 ≠ 0 then .violated .integerFraction
  else
    let size := number.ratio.1 / number.ratio.2
    if 2 ^ (63 : Nat) ≤ size then .violated .integerTextSize
    else .ok (if number.isNegative then -(size : Int) else size)

/-- An integer: a number without fraction, a truth value, or a text that denotes one. -/
def integer : Value → Checked Int
  | .int number => .ok number
  | .bool flag => .ok (if flag then 1 else 0)
  | .float number => integerOfDouble number
  | .str written => integerOfText written
  | _ => .violated .integer

/-- Whether characters can be those of a plain number: ASCII without blanks and underscores. -/
def isPlain (chars : List Char) : Bool :=
  chars.all fun c => c.toNat < 128 && c ≠ '_' && !Text.isBlank c

/-- The characters of a double's text: blanks around them do not count, and in a text without such
blanks lone underscores do not count either. -/
def plainChars? (chars : List Char) : Option (List Char) :=
  let trimmed := Text.trimChars Number.isNumberBlank chars
  let joined := chars.filter (· ≠ '_')
  if isPlain trimmed then some trimmed
  else if chars.head? ≠ some '_' && hasLoneUnderscores chars && isPlain joined then some joined
  else none

/-- A double written as text. -/
def doubleOfText (written : String) : Checked Double :=
  match (plainChars? written.toList).bind fun chars => Number.readDouble? (String.ofList chars) with
  | some number => .ok number
  | none => .violated .numberText

/-- A double: a number, a truth value, or a text that denotes one. -/
def double : Value → Checked Double
  | .float number => .ok number
  | .int number =>
    if (Double.ofInt number).isFinite then .ok (Double.ofInt number) else .violated .number
  | .bool flag => .ok (Double.ofInt (if flag then 1 else 0))
  | .str written => doubleOfText written
  | _ => .violated .number

end Workflow.Record
