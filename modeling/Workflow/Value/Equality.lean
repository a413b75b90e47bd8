import Workflow.Value.Basic

/-!
# Equality of values

The equality that filters test: numbers are equal by value whatever their type, with false and true
counting as zero and one; arrays are equal item by item; objects are equal when they have the same
fields in any order.  A NaN equals nothing, but inside arrays and objects it matches itself.
-/

namespace Workflow.Value

open Number (Double)

/-- A value that counts as a number. -/
inductive Numeric where
  | whole (number : Int)
  | real (number : Double)

/-- The number that a value counts as. -/
def numeric? : Value → Option Numeric
  | .bool flag => some (.whole (if flag then 1 else 0))
  | .int number => some (.whole number)
  | .float number => some (.real number)
  | _ => none

/-- Equality of numbers by value. -/
def Numeric.same : Numeric → Numeric → Bool
  | .whole x, .whole y => x == y
  | .whole x, .real y => Double.sameInt x y
  | .real x, .whole y => Double.sameInt y x
  | .real x, .real y => Double.same x y

/-- Whether two values are one and the same double. -/
def isOneDouble : Value → Value → Bool
  | .float number, .float other => number == other
  | _, _ => false

mutual

/-- Equality of values. -/
def same : Value → Value → Bool
  | .null, other => match other with
    | .null => true
    | _ => false
  | .str text, other => match other with
    | .str otherText => text == otherText
    | _ => false
  | .arr items, other => match other with
    | .arr otherItems => sameItems items otherItems
    | _ => false
  | .obj fields, other => match other with
    | .obj otherFields => fields.length == otherFields.length && sameFields fields otherFields
    | _ => false
  | .bool flag, other => match numeric? other with
    | some number => Numeric.same (.whole (if flag then 1 else 0)) number
    | none => false
  | .int number, other => match numeric? other with
    | some otherNumber => Numeric.same (.whole number) otherNumber
    | none => false
  | .float number, other => match numeric? other with
    | some otherNumber => Numeric.same (.real number) otherNumber
    | none => false

/-- Equality of arrays, item by item. -/
def sameItems : List Value → List Value → Bool
  | [], [] => true
  | item :: items, other :: others =>
    (isOneDouble item other || same item other) && sameItems items others
  | _, _ => false

/-- Every field is present with an equal value among the other fields. -/
def sameFields : List (Name × Value) → Object → Bool
  | [], _ => true
  | (name, value) :: rest, others =>
    (match Object.get? others name with
      | some other => isOneDouble value other || same value other
      | none => false) && sameFields rest others

end

end Workflow.Value
