import Workflow.Handler.Basic
import Workflow.Template.Basic

/-!
# Collecting and validating input

The input step fills in what the caller left out, and the validation step checks rules about values
in the environment and reports all failures together.
-/

namespace Workflow.Handler

/-- Fill in one declared variable: a well-formed declaration of an absent name adds the name with
its default. -/
def fillIn (current : Object) : Value → Object
  | .obj declaration =>
    match Value.field declaration "name" with
    | .str name =>
      let name := Text.strip name
      if name = "" ∨ Object.contains current name then current
      else Object.set current name (Value.field declaration "default")
    | _ => current
  | _ => current

/-- The input with all declared variables filled in. -/
def withDefaults (input : Object) (declarations : Value) : Object :=
  match declarations with
  | .arr items => items.foldl fillIn input
  | _ => input

/-- The input step. -/
def collectInput : Handler := ofAction fun fields environment _ => do
  let input ← Action.ofFault (Pairs.toObject (Value.field environment "input"))
  return .obj (withDefaults input (Value.field fields "variables"))

/-- Whether a value passes as a number: not a truth value; a text if it is blank or denotes a finite
number; a double if it is finite. -/
def passesAsNumber : Value → Bool
  | .int _ => true
  | .float number => number.isFinite
  | .str text =>
    if Text.strip text = "" then true
    else
      match Number.readDouble? text with
      | some number => number.isFinite
      | none => false
  | _ => false

/-- What is wrong with the type of a value, given the type a rule expects. -/
def typeProblem? (value expected : Value) : Option String :=
  match expected, value with
  | .str "number", _ => if passesAsNumber value then none else some "Expected number"
  | .str "string", .str _ => none
  | .str "string", _ => some "Expected string"
  | .str "boolean", .bool _ => none
  | .str "boolean", _ => some "Expected boolean"
  | _, _ => none

/-- A value that a required field must not have. -/
def isMissing : Value → Bool
  | .null => true
  | .str text => text.isEmpty
  | _ => false

/-- The path that a rule's field names: that of a lone slot, or else the field itself. -/
def fieldPath (field : String) : String := (Template.lone? field).getD field

/-- What is wrong with a field under a rule. -/
def ruleProblem? (environment rule : Object) (field : String) : Option String :=
  let value := Path.lookup environment (fieldPath field)
  if (Value.field rule "required").isTruthy && isMissing value then some "Field is required"
  else
    match value with
    | .null => none
    | value => typeProblem? value (Value.field rule "type")

/-- Add a message about a field; a field is listed where it first failed. -/
def addProblem (field message : String) :
    List (String × List String) → List (String × List String)
  | [] => [(field, [message])]
  | (known, messages) :: rest =>
    if known = field then (known, messages ++ [message]) :: rest
    else (known, messages) :: addProblem field message rest

/-- Check one rule and add its problem to those found so far. -/
def checkRule (environment : Object) (problems : List (String × List String)) (rule : Value) :
    Except Fault (List (String × List String)) :=
  match rule with
  | .obj rule =>
    match (Value.field rule "field").orElse (.str "") with
    | .str field =>
      match ruleProblem? environment rule field with
      | some message => .ok (addProblem field message problems)
      | none => .ok problems
    | other => .error (.notText other.type)
  | other => .error (.noOperation other.type "get")

/-- The rules that a value lists. -/
def rulesOf (value : Value) : Except Fault (List Value) :=
  let rules := value.orElse (.arr [])
  match Pairs.itemsOf? rules with
  | some items => .ok items
  | none => .error (.notIterable rules.type)

/-- The problems with all rules, in order. -/
def problems (environment : Object) (rules : Value) :
    Except Fault (List (String × List String)) := do
  let rules ← rulesOf rules
  rules.foldlM (checkRule environment) []

/-- The validation step. -/
def validateInput : Handler := ofAction fun fields environment _ => do
  let found ← Action.ofFault (problems environment (Value.field fields "rules"))
  if found.isEmpty then return .bool true
  else Action.fail (.validation found)

end Workflow.Handler
