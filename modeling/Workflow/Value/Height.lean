import Workflow.Fault
import Workflow.Value.Basic

/-!
# The height of values

The free-form values in a record may be nested, but only so far: a record with a higher value in it
has no wire form.
-/

namespace Workflow

namespace Value

mutual

/-- The height of a value: one more than that of the highest value in it. -/
def height : Value → Nat
  | .arr items => 1 + itemsHeight items
  | .obj fields => 1 + fieldsHeight fields
  | _ => 1

/-- The height of the highest of several values, zero if there are none. -/
def itemsHeight : List Value → Nat
  | [] => 0
  | item :: rest => max (height item) (itemsHeight rest)

/-- The height of the highest value of several fields, zero if there are none. -/
def fieldsHeight : List (Name × Value) → Nat
  | [] => 0
  | (_, value) :: rest => max (height value) (fieldsHeight rest)

end

/-- The greatest height of a free-form value in a record. -/
def maxHeight : Nat := 255

/-- Whether a free-form value can be written. -/
def fits (value : Value) : Bool := height value ≤ maxHeight

end Value

/-- Whether the values of all fields can be written. -/
def Object.fits (object : Object) : Bool := Value.fieldsHeight object ≤ Value.maxHeight

/-- The fault of a value that is too high to be written. -/
def Fault.tooHigh : Fault := .reported .value "Maximum serialization depth exceeded"

/-- A wire form, if all the free-form values in it can be written. -/
def Fault.unlessTooHigh {α : Type} (fits : Bool) (form : α) : Except Fault α :=
  if fits then .ok form else .error .tooHigh

end Workflow
