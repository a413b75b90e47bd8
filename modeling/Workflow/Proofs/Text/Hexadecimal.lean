import Workflow.Identifier
import Workflow.Json.Reader

/-!
# Hexadecimal texts

A number is read back from its digits, and from hexadecimal ones whatever the width to which they are
padded.  Identifiers with different numbers are therefore different.
-/

namespace Workflow

namespace Text

/-- A number is read back from its digits. -/
theorem ofDigits_toDigits {base : Nat} (one_lt : 1 < base) {value : Char → Nat}
    (value_eq : ∀ digit < base, value (Nat.digitChar digit) = digit) (number : Nat) :
    ofDigits base ((Nat.toDigits base number).map value) = number := by
  have append_eq (front : List Char) (digit : Nat) (small : digit < base) :
      ofDigits base ((front ++ [digit.digitChar]).map value) =
        ofDigits base (front.map value) * base + digit := by
    simp [ofDigits, value_eq digit small]
  induction number using Nat.strongRecOn with
  | ind number ih =>
      by_cases small : number < base
      · rw [Nat.toDigits_of_lt_base small, ← List.nil_append [_], append_eq [] number small]
        simp [ofDigits]
      -- The last digit is the remainder, and those before it are the digits of the quotient.
      · have below : number / base < number := Nat.div_lt_self (by omega) one_lt
        rw [Nat.toDigits_of_base_le one_lt (Nat.not_lt.1 small),
          append_eq _ _ (Nat.mod_lt _ (by omega)), ih (number / base) below]
        exact Nat.div_add_mod' number base

/-- The number that hexadecimal digits stand for; any other character counts as zero. -/
def ofHex (digits : List Char) : Nat :=
  ofDigits 16 (digits.map fun c => (Json.hexDigit? c).getD 0)

theorem ofHex_toDigits (number : Nat) : ofHex (Nat.toDigits 16 number) = number := by
  have all : ∀ digit : Fin 16, (Json.hexDigit? (Nat.digitChar digit)).getD 0 = digit.val := by decide
  exact ofDigits_toDigits (by decide) (fun digit small => all ⟨digit, small⟩) number

/-- Zeros in front of digits do not count. -/
theorem ofHex_zeros_append (count : Nat) (digits : List Char) :
    ofHex (List.replicate count '0' ++ digits) = ofHex digits := by
  induction count with
  | zero => rfl
  | succ count ih =>
      rw [List.replicate_succ, List.cons_append]
      exact ih

theorem ofHex_hex (width number : Nat) : ofHex (hex width number) = number := by
  rw [hex, ofHex_zeros_append, ofHex_toDigits]

end Text

/-- Identifiers with different numbers are different. -/
theorem Identifier.plain_injective {number other : Nat} (same : plain number = plain other) :
    number = other := by
  have digits_eq : Text.hex 32 number = Text.hex 32 other := String.ofList_injective same
  rw [← Text.ofHex_hex 32 number, digits_eq, Text.ofHex_hex]

end Workflow
