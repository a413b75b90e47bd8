import Workflow.Number.Double
import Workflow.Text.Digits
import Workflow.Text.Blank

/-!
# Numbers written as text

The grammars by which a text denotes an integer or a double: blanks around the number, an optional
sign, decimal digits of any script, and single underscores between digits.  An integer may have at
most `maxDigits` digits, in reading and in writing.
-/

namespace Workflow.Number

open Workflow.Text

-- Powers are those of the core library, whatever else is imported.
attribute [local instance(high)] instPowNat

/-- The most digits an integer's decimal text may have. -/
def maxDigits : Nat := 4300

/-- The blanks allowed around a number: all but the information separators. -/
def isNumberBlank (c : Char) : Bool :=
  isBlank c && !(0x1c ≤ c.toNat && c.toNat ≤ 0x1f)

/-- The decimal text of an integer. -/
def intText (i : Int) : String :=
  (if i < 0 then "-" else "") ++ String.ofList (Nat.toDigits 10 i.natAbs)

/-- Whether an integer's text would be longer than allowed. -/
def tooLong (i : Int) : Bool := decide (10 ^ maxDigits ≤ i.natAbs)

namespace Literal

/-- Split an optional sign off; `true` is a minus. -/
def sign : List Char → Bool × List Char
  | '-' :: rest => (true, rest)
  | '+' :: rest => (false, rest)
  | rest => (false, rest)

/-- Read digits as far as they go; an underscore counts only between two digits.  `digit` tells
which characters are digits, and `after` whether the character before this point was one. -/
def digitRun (digit : Char → Option Nat) (after : Bool) : List Char → List Nat × List Char
  | [] => ([], [])
  | c :: rest =>
    match digit c with
    | some value =>
      let (values, remaining) := digitRun digit true rest
      (value :: values, remaining)
    | none =>
      if c = '_' ∧ after = true ∧ (rest.head?.bind digit).isSome then digitRun digit false rest
      else ([], c :: rest)

/-- The exponent part of a double's text, if there is one. -/
def exponentPart : List Char → Option (Int × List Char)
  | [] => some (0, [])
  | c :: rest =>
    if c = 'e' ∨ c = 'E' then
      let (negative, unsigned) := sign rest
      match digitRun digitValue? false unsigned with
      | ([], _) => none
      | (digits, remaining) =>
        let size : Int := ofDigits 10 digits
        some (if negative then -size else size, remaining)
    else some (0, c :: rest)

/-- The words for the numbers that are not finite. -/
def special? (negative : Bool) (body : List Char) : Option Double :=
  let word := body.map Char.toLower
  if word = "inf".toList ∨ word = "infinity".toList then some (Double.infinity negative)
  else if word = "nan".toList then some Double.nan
  else none

/-- A double without sign and blanks. -/
def unsignedDouble (negative : Bool) (body : List Char) : Option Double :=
  let (whole, afterWhole) := digitRun digitValue? false body
  let (fraction, afterFraction) :=
    match afterWhole with
    | '.' :: rest => digitRun digitValue? false rest
    | rest => ([], rest)
  if whole.isEmpty && fraction.isEmpty then none
  else
    match exponentPart afterFraction with
    | some (exponent, []) =>
      let digits := ofDigits 10 (whole ++ fraction)
      some (Double.ofDecimal negative digits (exponent - fraction.length))
    | _ => none

end Literal

/-- Why a text is no integer. -/
inductive IntProblem where
  /-- The text does not follow the grammar. -/
  | malformed
  /-- The text has more digits than allowed. -/
  | tooManyDigits (count : Nat)
deriving DecidableEq

/-- The integer that a text denotes. -/
def readInt (text : String) : Except IntProblem Int :=
  let (negative, body) := Literal.sign (trimChars isNumberBlank text.toList)
  match Literal.digitRun digitValue? false body with
  | ([], _) => .error .malformed
  | (digits, []) =>
    if maxDigits < digits.length then .error (.tooManyDigits digits.length)
    else
      let size : Int := ofDigits 10 digits
      .ok (if negative then -size else size)
  | _ => .error .malformed

/-- The double that a text denotes. -/
def readDouble? (text : String) : Option Double :=
  let (negative, body) := Literal.sign (trimChars isNumberBlank text.toList)
  match Literal.special? negative body with
  | some x => some x
  | none => Literal.unsignedDouble negative body

end Workflow.Number
