/-!
# Arithmetic modulo a number

Powers and inverses of naturals modulo another.
-/

namespace Workflow.Number.Modular

-- Powers are those of the core library, whatever else is imported.
attribute [local instance(high)] instPowNat

/-- A power modulo a number, by repeated squaring. -/
def power (modulus base exponent : Nat) : Nat :=
  if exponent = 0 then 1 % modulus
  else
    let half := power modulus (base * base % modulus) (exponent / 2)
    if exponent % 2 = 0 then half else half * base % modulus
termination_by exponent
decreasing_by omega

/-- Repeated squaring computes the power. -/
theorem power_eq (modulus base exponent : Nat) :
    power modulus base exponent = base ^ exponent % modulus := by
  induction exponent using Nat.strongRecOn generalizing base with
  | ind exponent ih =>
    unfold power
    by_cases zero : exponent = 0
    · simp [zero]
    · have square : (base * base % modulus) ^ (exponent / 2) % modulus =
          base ^ (2 * (exponent / 2)) % modulus := by
        rw [← Nat.pow_mod, ← Nat.pow_two, ← Nat.pow_mul]
      have split := Nat.div_add_mod exponent 2
      simp only [zero, if_false, ih _ (by omega : exponent / 2 < exponent), square]
      by_cases even : exponent % 2 = 0
      · rw [if_pos even]
        congr 2
        omega
      · have odd : (2 * (exponent / 2)).succ = exponent := by omega
        rw [if_neg even, Nat.mod_mul_mod, ← Nat.pow_succ, odd]

/-- The inverse modulo a prime of a number that the prime does not divide. -/
def inverse (prime number : Nat) : Nat := power prime number (prime - 2)

/-- A difference modulo a number. -/
def difference (modulus x y : Nat) : Nat := (x + (modulus - y % modulus)) % modulus

end Workflow.Number.Modular
