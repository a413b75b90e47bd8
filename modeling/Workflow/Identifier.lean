import Workflow.Text.Quoted

/-!
# Generated identifiers

Identifiers are drawn from a supply that numbers them from one.  An identifier is the number in 32
hexadecimal digits, and a run's identifier has these digits in five groups.
-/

namespace Workflow.Identifier

/-- The thirty-two digits of an identifier. -/
def digits (number : Nat) : List Char := Text.hex 32 number

/-- The plain form, used for documents. -/
def plain (number : Nat) : String := String.ofList (digits number)

/-- The grouped form, used for runs. -/
def grouped (number : Nat) : String :=
  let all := digits number
  let part (start length : Nat) := String.ofList ((all.drop start).take length)
  "-".intercalate [part 0 8, part 8 4, part 12 4, part 16 4, part 20 12]

end Workflow.Identifier
