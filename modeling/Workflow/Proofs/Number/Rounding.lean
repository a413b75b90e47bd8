import Mathlib.Algebra.Order.Field.Power
import Mathlib.Data.Rat.Cast.Order
import Mathlib.Tactic.FieldSimp
import Mathlib.Tactic.Linarith
import Mathlib.Tactic.NormNum
import Mathlib.Tactic.Positivity
import Mathlib.Tactic.Ring
import Workflow.Number.Shortest

/-!
# Rounding to doubles

A finite double that is not zero has an interval of amounts around it, up to the midpoints to its
neighbours.  Every decimal in the interval is read as the double.
-/

namespace Workflow.Number

-- Powers are those of the core library, whatever else is imported.
attribute [local instance(high)] instPowNat

namespace Double

/-! ## The parts of a double -/

section Parts

variable {x : Double}

theorem bits_eq (x : Double) :
    x.bits.toNat =
      (if x.isNegative then 2 ^ (63 : Nat) else 0) + x.exponentField * 2 ^ (52 : Nat) +
        x.fractionField := by
  have small : x.bits.toNat < 2 ^ (64 : Nat) := x.bits.toNat_lt
  simp only [isNegative, exponentField, fractionField, beq_iff_eq, Nat.reducePow] at *
  split <;> omega

/-- What the parts of a finite double are: the significand of a normal one has fifty-three bits. -/
theorem parts (finite : x.isFinite = true) :
    (x.scale = -1074 ∧ x.significand < 2 ^ (52 : Nat) ∧ x.exponentField = 0 ∧
        x.significand = x.fractionField) ∨
      (x.scale = x.exponentField - 1075 ∧ 1 ≤ x.exponentField ∧ x.exponentField < 2047 ∧
        x.significand = 2 ^ (52 : Nat) + x.fractionField ∧ x.fractionField < 2 ^ (52 : Nat)) := by
  have fraction : x.fractionField < 2 ^ (52 : Nat) := Nat.mod_lt _ (by decide)
  have exponent : x.exponentField < 2 ^ (11 : Nat) := Nat.mod_lt _ (by decide)
  simp only [isFinite, bne_iff_ne, ne_eq, significand, scale, beq_iff_eq, Nat.reducePow] at *
  split
  · exact .inl ⟨rfl, fraction, ‹_›, rfl⟩
  · exact .inr ⟨rfl, by omega, by omega, rfl, fraction⟩

theorem scale_nonneg (finite : x.isFinite = true) : 0 ≤ x.scale + 1074 := by
  rcases parts finite with ⟨scale_eq, -⟩ | ⟨scale_eq, positive, -⟩ <;> omega

theorem scale_le (finite : x.isFinite = true) : x.scale ≤ 971 := by
  rcases parts finite with ⟨scale_eq, -⟩ | ⟨scale_eq, -, small, -⟩ <;> omega

theorem significand_lt (finite : x.isFinite = true) : x.significand < 2 ^ (53 : Nat) := by
  rcases parts finite with ⟨-, small, -⟩ | ⟨-, -, -, significand_eq, small⟩ <;>
    simp only [Nat.reducePow] at * <;> omega

/-- A finite double is assembled from its scale and its significand. -/
theorem assemble_parts (finite : x.isFinite = true) :
    assemble x.isNegative ((x.scale + 1074).toNat * 2 ^ (52 : Nat) + x.significand) = x := by
  have magnitude_eq : (x.scale + 1074).toNat * 2 ^ (52 : Nat) + x.significand =
      x.exponentField * 2 ^ (52 : Nat) + x.fractionField := by
    rcases parts finite with ⟨scale_eq, -, exponent_eq, significand_eq⟩ |
      ⟨scale_eq, positive, -, significand_eq, -⟩
    · rw [scale_eq, significand_eq, exponent_eq]
      rfl
    · obtain ⟨less, exponent_eq⟩ := Nat.exists_eq_add_of_le' positive
      have scale_nat : (x.scale + 1074).toNat = less := by omega
      rw [scale_nat, significand_eq, exponent_eq]
      simp only [Nat.reducePow]
      omega
  have same : (if x.isNegative then 2 ^ (63 : Nat) + (x.exponentField * 2 ^ (52 : Nat) +
      x.fractionField) else x.exponentField * 2 ^ (52 : Nat) + x.fractionField) =
        x.bits.toNat := by
    rw [bits_eq]
    split
    · rw [Nat.add_assoc]
    · rw [Nat.zero_add]
  rw [magnitude_eq, assemble, same, UInt64.ofNat_toNat]

/-- The bits of a finite double are below those of the infinities. -/
theorem parts_lt_infinity (finite : x.isFinite = true) :
    (x.scale + 1074).toNat * 2 ^ (52 : Nat) + x.significand < 2047 * 2 ^ (52 : Nat) := by
  rcases parts finite with ⟨scale_eq, small, -⟩ | ⟨scale_eq, -, small, significand_eq, fraction⟩
  · rw [scale_eq]
    simp only [Nat.reducePow] at *
    omega
  · simp only [Nat.reducePow] at *
    omega

theorem isNaN_of_isFinite (finite : x.isFinite = true) : x.isNaN = false := by
  rw [isFinite, bne_iff_ne] at finite
  rw [isNaN, beq_eq_false_iff_ne.2 finite, Bool.false_and]

theorem isInfinite_of_isFinite (finite : x.isFinite = true) : x.isInfinite = false := by
  rw [isFinite, bne_iff_ne] at finite
  rw [isInfinite, beq_eq_false_iff_ne.2 finite, Bool.false_and]

/-- A finite double is a zero, or its significand is positive. -/
theorem significand_eq_zero_or_pos (finite : x.isFinite = true) :
    x.isZero = true ∧ x.scale = -1074 ∧ x.significand = 0 ∨
      x.isZero = false ∧ 0 < x.significand := by
  rcases parts finite with ⟨scale_eq, -, exponent_eq, significand_eq⟩ |
    ⟨-, positive, -, significand_eq, -⟩
  · rw [isZero, exponent_eq, significand_eq]
    rcases Nat.eq_zero_or_pos x.fractionField with none | some
    · exact .inl ⟨by rw [none]; rfl, scale_eq, none⟩
    · exact .inr ⟨by simp; omega, some⟩
  · refine .inr ⟨?_, by omega⟩
    rw [isZero, beq_eq_false_iff_ne.2 (by omega), Bool.false_and]

end Parts

end Double

/-! ## Amounts -/

/-- A power with an exponent of either sign is a quotient of powers with exponents that are naturals. -/
theorem zpow_eq_quotient (base : ℚ) (exponent : Int) :
    base ^ exponent = (if exponent < 0 then 1 else base ^ exponent.natAbs) /
      (if exponent < 0 then base ^ exponent.natAbs else 1) := by
  cases exponent with
  | ofNat size => simp [Int.not_lt.2 (Int.natCast_nonneg size)]
  | negSucc size => simp [Int.negSucc_lt_zero, zpow_negSucc]

/-- The amount that a decimal stands for. -/
def Decimal.amount (d : Decimal) : ℚ := d.coefficient * 10 ^ d.exponent

/-- Comparing a decimal with a number times a power of two compares their amounts. -/
theorem Decimal.compareScaled_iff (d : Decimal) (number : Nat) (scale : Int) :
    (d.compareScaled number scale = .lt ↔ d.amount < number * 2 ^ scale) ∧
      (d.compareScaled number scale = .gt ↔ number * 2 ^ scale < d.amount) := by
  obtain ⟨coefficient, exponent⟩ := d
  have tens : (0 : ℚ) < if exponent < 0 then 10 ^ exponent.natAbs else 1 := by split <;> positivity
  have twos : (0 : ℚ) < if scale < 0 then 2 ^ scale.natAbs else 1 := by split <;> positivity
  rw [compareScaled, Nat.compare_eq_lt, Nat.compare_eq_gt, amount, zpow_eq_quotient 10,
    zpow_eq_quotient 2, mul_div_assoc', mul_div_assoc', div_lt_div_iff₀ tens twos,
    div_lt_div_iff₀ twos tens, ← Nat.cast_lt (α := ℚ), ← Nat.cast_lt (α := ℚ)]
  push_cast
  exact ⟨Iff.rfl, Iff.rfl⟩

namespace Double

/-- An amount is rounded to a natural number, of two to the even one. -/
def RoundsTo (amount : ℚ) (number : Nat) : Prop :=
  if number % 2 = 0 then number - 1 / 2 ≤ amount ∧ amount ≤ number + 1 / 2
  else number - 1 / 2 < amount ∧ amount < number + 1 / 2

theorem RoundsTo.bounds {amount : ℚ} {number : Nat} (rounds : RoundsTo amount number) :
    number - 1 / 2 ≤ amount ∧ amount ≤ number + 1 / 2 := by
  unfold RoundsTo at rounds
  split at rounds
  · exact rounds
  · exact ⟨rounds.1.le, rounds.2.le⟩

theorem RoundsTo.even {amount : ℚ} {number : Nat} (rounds : RoundsTo amount number)
    (tie : amount = number - 1 / 2 ∨ amount = number + 1 / 2) : number % 2 = 0 := by
  by_contra odd
  rw [RoundsTo, if_neg odd] at rounds
  rcases tie with tie | tie <;> linarith [rounds.1, rounds.2]

section Halves

variable {rest den : Nat} (positive : (0 : ℚ) < den)
include positive

theorem twice_lt_iff : 2 * rest < den ↔ (rest : ℚ) / den < 1 / 2 := by
  rw [div_lt_div_iff₀ positive two_pos, ← Nat.cast_lt (α := ℚ)]
  push_cast
  constructor <;> intro <;> linarith

theorem lt_twice_iff : den < 2 * rest ↔ 1 / 2 < (rest : ℚ) / den := by
  rw [div_lt_div_iff₀ two_pos positive, ← Nat.cast_lt (α := ℚ)]
  push_cast
  constructor <;> intro <;> linarith

end Halves

theorem roundQuotient_eq {num den number : Nat} (positive : 0 < den)
    (rounds : RoundsTo (num / den) number) : roundQuotient num den = number := by
  have rest_lt : num % den < den := Nat.mod_lt _ positive
  have den_pos : (0 : ℚ) < den := by exact_mod_cast positive
  have amount_eq : (num / den : ℚ) = (num / den : Nat) + (num % den : Nat) / den := by
    rw [eq_comm, add_div' _ _ _ den_pos.ne', mul_comm]
    congr 1
    exact_mod_cast Nat.div_add_mod num den
  obtain ⟨low, high⟩ := rounds.bounds
  have even := rounds.even
  rw [amount_eq] at low high even
  simp only [roundQuotient, twice_lt_iff den_pos, lt_twice_iff den_pos]
  generalize num / den = floor at *
  generalize num % den = rest at *
  have part_nonneg : (0 : ℚ) ≤ rest / den := by positivity
  have part_lt : (rest : ℚ) / den < 1 := by
    rw [div_lt_one den_pos]
    exact_mod_cast rest_lt
  have at_most : number ≤ floor + 1 := by
    have : (number : ℚ) < floor + 2 := by linarith
    exact Nat.lt_succ_iff.1 (by exact_mod_cast this)
  have at_least : floor ≤ number := by
    have : (floor : ℚ) < number + 1 := by linarith
    exact Nat.lt_succ_iff.1 (by exact_mod_cast this)
  obtain rfl | rfl : number = floor ∨ number = floor + 1 := by omega
  · split_ifs with below above tie
    · rfl
    · linarith
    · rfl
    · exact absurd (even (.inr (by linarith))) tie
  · push_cast at low high even
    split_ifs with below above tie
    · linarith
    · rfl
    · have := even (.inl (by linarith))
      omega
    · rfl

/-- The parts of a quotient that is divided by a power of two. -/
theorem unscale_spec {num den : Nat} (positive : 0 < den) (scale : Int) :
    0 < (unscale num den scale).2 ∧
      ((unscale num den scale).1 : ℚ) / (unscale num den scale).2 = num / den / 2 ^ scale := by
  have den_pos : (0 : ℚ) < den := by exact_mod_cast positive
  rw [zpow_eq_quotient]
  unfold unscale
  split
  · refine ⟨positive, ?_⟩
    push_cast
    field_simp
  · refine ⟨Nat.mul_pos positive (Nat.pow_pos two_pos), ?_⟩
    push_cast
    field_simp

theorem two_zpow_add (a b : Int) : (2 : ℚ) ^ (a + b) = 2 ^ a * 2 ^ b := zpow_add₀ two_ne_zero a b

/-- What a quotient has at least when it is divided by a power of two. -/
theorem le_unscale_iff {num den : Nat} (positive : 0 < den) (scale : Int) (bound : Nat) :
    bound ≤ (unscale num den scale).1 / (unscale num den scale).2 ↔
      (bound : ℚ) * 2 ^ scale ≤ (num / den : ℚ) := by
  obtain ⟨scaled_pos, scaled_eq⟩ := @unscale_spec num den positive scale
  have scaled_pos' : (0 : ℚ) < (unscale num den scale).2 := by exact_mod_cast scaled_pos
  rw [Nat.le_div_iff_mul_le scaled_pos, ← Nat.cast_le (α := ℚ), ← le_div_iff₀ (by positivity),
    ← scaled_eq, le_div_iff₀ scaled_pos', Nat.cast_mul]

theorem log2_bounds {number : Nat} (positive : 0 < number) :
    (2 : ℚ) ^ (Nat.log2 number : Int) ≤ number ∧
      (number : ℚ) < 2 * 2 ^ (Nat.log2 number : Int) := by
  constructor
  · exact_mod_cast Nat.log2_self_le (Nat.ne_of_gt positive)
  · have below := @Nat.lt_log2_self number
    rw [Nat.pow_succ, Nat.mul_comm] at below
    exact_mod_cast below

/-- The scale that the logarithms of its parts give for a quotient is right, or one too small. -/
theorem guess_bounds {num den : Nat} (num_pos : 0 < num) (den_pos : 0 < den) {guess : Int}
    (guess_eq : guess = (Nat.log2 num : Int) - Nat.log2 den - 53) :
    2 ^ 52 * 2 ^ guess ≤ (num / den : ℚ) ∧ (num / den : ℚ) < 2 ^ 54 * 2 ^ guess := by
  obtain ⟨num_low, num_high⟩ := log2_bounds num_pos
  obtain ⟨den_low, den_high⟩ := log2_bounds den_pos
  have log_eq : (2 : ℚ) ^ (Nat.log2 num : Int) = 2 ^ 53 * 2 ^ guess * 2 ^ (Nat.log2 den : Int) := by
    rw [← zpow_natCast, ← two_zpow_add, ← two_zpow_add]
    congr 1
    omega
  have positive : (0 : ℚ) < den := by exact_mod_cast den_pos
  have unit_pos : (0 : ℚ) < 2 ^ guess := by positivity
  have log_pos : (0 : ℚ) < 2 ^ (Nat.log2 den : Int) := by positivity
  rw [log_eq] at num_low num_high
  generalize (2 : ℚ) ^ (Nat.log2 den : Int) = log at *
  constructor
  · rw [le_div_iff₀ positive]
    nlinarith
  · rw [div_lt_iff₀ positive]
    nlinarith

/-- The scale of a quotient leaves it fifty-three significant bits, or fewer at the least scale. -/
theorem scaleOf_spec {num den : Nat} (num_pos : 0 < num) (den_pos : 0 < den) :
    -1074 ≤ scaleOf num den ∧ (num / den : ℚ) < 2 ^ 53 * 2 ^ scaleOf num den ∧
      (scaleOf num den = -1074 ∨ 2 ^ 52 * 2 ^ scaleOf num den ≤ (num / den : ℚ)) := by
  let guess : Int := (Nat.log2 num : Int) - Nat.log2 den - 53
  have scale_eq : scaleOf num den =
      max (if 2 ^ (53 : Nat) ≤ (unscale num den guess).1 / (unscale num den guess).2 then guess + 1
        else guess) (-1074) := rfl
  have enough := @le_unscale_iff num den den_pos guess (2 ^ (53 : Nat))
  push_cast at enough
  obtain ⟨low, high⟩ := guess_bounds num_pos den_pos (rfl : guess = _)
  have unit_pos : (0 : ℚ) < 2 ^ guess := by positivity
  have double : (2 : ℚ) ^ (guess + 1) = 2 * 2 ^ guess := by rw [two_zpow_add, mul_comm]; rfl
  rw [scale_eq]
  simp only [enough]
  split_ifs with more
  · rcases le_total (-1074) (guess + 1) with inside | below
    · rw [max_eq_left inside, double]
      exact ⟨inside, by linarith, .inr (by linarith)⟩
    · have least := zpow_le_zpow_right₀ (one_le_two (α := ℚ)) below
      rw [max_eq_right below]
      rw [double] at least
      exact ⟨le_rfl, by linarith, .inl rfl⟩
  · rcases le_total (-1074) guess with inside | below
    · rw [max_eq_left inside]
      exact ⟨inside, not_le.1 more, .inr low⟩
    · have least := zpow_le_zpow_right₀ (one_le_two (α := ℚ)) below
      rw [max_eq_right below]
      exact ⟨le_rfl, by linarith [not_le.1 more], .inl rfl⟩

/-- The amounts that are read as a double: they lie between the midpoints to its neighbours, of which
the lower is nearer when the significand is the least of its scale. -/
def Covers (x : Double) (amount : ℚ) : Prop :=
  let unit : ℚ := 2 ^ (x.scale - 2)
  let below : Nat := if x.fractionField == 0 && 1 < x.exponentField then 1 else 2
  if x.significand % 2 = 0 then
    (4 * x.significand - below) * unit ≤ amount ∧ amount ≤ (4 * x.significand + 2) * unit
  else (4 * x.significand - below) * unit < amount ∧ amount < (4 * x.significand + 2) * unit

theorem readsBack_iff {x : Double} (positive : 0 < x.significand) (d : Decimal) :
    x.readsBack d = true ↔ x.Covers d.amount := by
  have below_eq : ((if x.fractionField == 0 && 1 < x.exponentField then 4 * x.significand - 1
      else 4 * x.significand - 2 : Nat) : ℚ) =
        4 * x.significand - (if x.fractionField == 0 && 1 < x.exponentField then 1 else 2 : Nat) := by
    split
    · rw [Nat.cast_sub (by omega)]
      push_cast
      rfl
    · rw [Nat.cast_sub (by omega)]
      push_cast
      rfl
  have above_eq : ((4 * x.significand + 2 : Nat) : ℚ) = 4 * x.significand + 2 := by push_cast; rfl
  obtain ⟨low_lt, low_gt⟩ := d.compareScaled_iff
    (if x.fractionField == 0 && 1 < x.exponentField then 4 * x.significand - 1
      else 4 * x.significand - 2) (x.scale - 2)
  obtain ⟨high_lt, high_gt⟩ := d.compareScaled_iff (4 * x.significand + 2) (x.scale - 2)
  rw [below_eq] at low_lt low_gt
  rw [above_eq] at high_lt high_gt
  simp only [readsBack, Covers]
  split
  · exact Bool.and_eq_true_iff.trans (and_congr
      (bne_iff_ne.trans ((not_congr low_lt).trans not_lt))
      (bne_iff_ne.trans ((not_congr high_gt).trans not_lt)))
  · exact Bool.and_eq_true_iff.trans (and_congr (beq_iff_eq.trans low_gt) (beq_iff_eq.trans high_lt))

variable {x : Double} {amount : ℚ}

theorem unit_eq (x : Double) : (2 : ℚ) ^ (x.scale - 2) = 2 ^ x.scale / 4 := by
  rw [zpow_sub₀ two_ne_zero]
  norm_num

/-- The amounts that a double covers, measured by its scale, are rounded to its significand. -/
theorem Covers.roundsTo (covers : x.Covers amount) : RoundsTo (amount / 2 ^ x.scale) x.significand := by
  have unit_pos : (0 : ℚ) < 2 ^ x.scale := by positivity
  simp only [Covers, unit_eq] at covers
  have below_le : ((if x.fractionField == 0 && 1 < x.exponentField then 1 else 2 : Nat) : ℚ) ≤ 2 := by
    split <;> norm_num
  generalize ((if x.fractionField == 0 && 1 < x.exponentField then 1 else 2 : Nat) : ℚ) = below at *
  simp only [RoundsTo, le_div_iff₀ unit_pos, div_le_iff₀ unit_pos, lt_div_iff₀ unit_pos,
    div_lt_iff₀ unit_pos]
  generalize (2 : ℚ) ^ x.scale = unit at *
  split_ifs at covers ⊢
  · exact ⟨by nlinarith [covers.1], by linarith [covers.2]⟩
  · exact ⟨by nlinarith [covers.1], by linarith [covers.2]⟩

/-- Around an amount that a double covers, measured by the scale of the double. -/
theorem Covers.scaled_bounds (covers : x.Covers amount) :
    (x.significand - 1 / 2) * 2 ^ x.scale ≤ amount ∧
      amount ≤ (x.significand + 1 / 2) * 2 ^ x.scale := by
  have unit_pos : (0 : ℚ) < 2 ^ x.scale := by positivity
  obtain ⟨low, high⟩ := covers.roundsTo.bounds
  exact ⟨(le_div_iff₀ unit_pos).1 low, (div_le_iff₀ unit_pos).1 high⟩

/-- An amount that a double covers has no greater scale than the double. -/
theorem Covers.le_scale (finite : x.isFinite = true) (covers : x.Covers amount) {scale : Int}
    (low : scale = -1074 ∨ 2 ^ 52 * 2 ^ scale ≤ amount) : scale ≤ x.scale := by
  have scales : 0 ≤ x.scale + 1074 := scale_nonneg finite
  by_contra greater
  have unit_pos : (0 : ℚ) < 2 ^ x.scale := by positivity
  have more : (2 : ℚ) * 2 ^ x.scale ≤ 2 ^ scale := by
    rw [mul_comm, ← zpow_add_one₀ two_ne_zero]
    exact zpow_le_zpow_right₀ one_le_two (by omega)
  have small : (x.significand : ℚ) + 1 ≤ 2 ^ 53 := by exact_mod_cast significand_lt finite
  have to_high := covers.scaled_bounds.2
  rcases low with least_eq | low
  · omega
  · nlinarith

/-- An amount of a smaller scale than a double that covers it is just below a power of two that the
double is, and rounded to it. -/
theorem Covers.of_scale_lt (finite : x.isFinite = true) (covers : x.Covers amount) {scale : Int}
    (least : -1074 ≤ scale) (high : amount < 2 ^ 53 * 2 ^ scale) (less : scale < x.scale) :
    scale = x.scale - 1 ∧ x.significand = 2 ^ 52 ∧ RoundsTo (amount / 2 ^ scale) (2 ^ 53) := by
  have unit_pos : (0 : ℚ) < 2 ^ x.scale := by positivity
  obtain ⟨from_low, to_high⟩ := covers.scaled_bounds
  have half_eq : (2 : ℚ) ^ (x.scale - 1) = 2 ^ x.scale / 2 := by
    rw [zpow_sub₀ two_ne_zero, zpow_one]
  have at_most : (2 : ℚ) ^ scale ≤ 2 ^ x.scale / 2 := by
    rw [← half_eq]
    exact zpow_le_zpow_right₀ one_le_two (by omega)
  have low_significand : (x.significand : ℚ) < 2 ^ 52 + 1 := by
    by_contra more
    nlinarith
  have significand_le : x.significand ≤ 2 ^ 52 :=
    Nat.lt_succ_iff.1 (by exact_mod_cast low_significand)
  rcases parts finite with ⟨scale_eq, -⟩ | ⟨scale_eq, -, -, significand_eq, -⟩
  · omega
  · have no_fraction : x.fractionField = 0 := by omega
    have whole : x.significand = 2 ^ 52 := by omega
    have near : (x.fractionField == 0 && decide (1 < x.exponentField)) = true := by
      rw [no_fraction, Bool.and_eq_true, decide_eq_true_eq]
      exact ⟨rfl, by omega⟩
    have from_near : (2 ^ 53 - 1 / 2) * (2 ^ x.scale / 2) ≤ amount := by
      simp only [Covers, unit_eq, near, whole] at covers
      have := covers.1
      push_cast at this
      linarith
    have scale_eq : scale = x.scale - 1 := by
      by_contra other
      have quarter : (2 : ℚ) ^ scale ≤ 2 ^ x.scale / 4 := by
        rw [← unit_eq]
        exact zpow_le_zpow_right₀ one_le_two (by omega)
      nlinarith
    rw [scale_eq, half_eq] at high ⊢
    refine ⟨rfl, whole, ?_⟩
    rw [RoundsTo, if_pos (by decide), le_div_iff₀ (by positivity), div_le_iff₀ (by positivity)]
    push_cast
    exact ⟨from_near, by linarith⟩

/-- A quotient that a double covers is rounded to the bits of the double. -/
theorem ofRatio_of_covers (finite : x.isFinite = true) {num den : Nat} (num_pos : 0 < num)
    (den_pos : 0 < den) (covers : x.Covers (num / den)) (negative : Bool) :
    ofRatio negative num den =
      assemble negative ((x.scale + 1074).toNat * 2 ^ (52 : Nat) + x.significand) := by
  obtain ⟨least, high, low⟩ := scaleOf_spec num_pos den_pos
  obtain ⟨scaled_pos, scaled_eq⟩ := @unscale_spec num den den_pos (scaleOf num den)
  have bits_eq : (scaleOf num den + 1074).toNat * 2 ^ (52 : Nat) +
      roundQuotient (unscale num den (scaleOf num den)).1 (unscale num den (scaleOf num den)).2 =
        (x.scale + 1074).toNat * 2 ^ (52 : Nat) + x.significand := by
    rcases (covers.le_scale finite low).eq_or_lt with same | less
    · rw [roundQuotient_eq scaled_pos (by rw [scaled_eq, same]; exact covers.roundsTo), same]
    · obtain ⟨scale_eq, whole, rounds⟩ := covers.of_scale_lt finite least high less
      rw [roundQuotient_eq scaled_pos (by rw [scaled_eq]; exact rounds), whole]
      simp only [Nat.reducePow]
      omega
  have below := parts_lt_infinity finite
  simp only [ofRatio]
  rw [if_neg (by omega), bits_eq, if_neg (Nat.not_le.2 below)]

/-- The amounts that a double covers are in the range of the format. -/
theorem Covers.range (finite : x.isFinite = true) (positive : 0 < x.significand)
    (covers : x.Covers amount) : (2 : ℚ) ^ (-1075 : Int) ≤ amount ∧ amount < 2 ^ (1024 : Int) := by
  have unit_pos : (0 : ℚ) < 2 ^ x.scale := by positivity
  obtain ⟨from_low, to_high⟩ := covers.scaled_bounds
  have one_le : (1 : ℚ) ≤ x.significand := by exact_mod_cast positive
  have small : (x.significand : ℚ) + 1 ≤ 2 ^ 53 := by exact_mod_cast significand_lt finite
  have least : (2 : ℚ) ^ (-1074 : Int) ≤ 2 ^ x.scale :=
    zpow_le_zpow_right₀ one_le_two (by have := scale_nonneg finite; omega)
  have most : (2 : ℚ) ^ x.scale ≤ 2 ^ (971 : Int) := zpow_le_zpow_right₀ one_le_two (scale_le finite)
  have half_eq : (2 : ℚ) ^ (-1075 : Int) = 2 ^ (-1074 : Int) / 2 := by
    rw [show (-1075 : Int) = -1074 - 1 by rfl, zpow_sub₀ two_ne_zero, zpow_one]
  have high_eq : (2 : ℚ) ^ (1024 : Int) = 2 ^ 53 * 2 ^ (971 : Int) := by
    rw [show (1024 : Int) = 53 + 971 by rfl, two_zpow_add]
    rfl
  rw [half_eq, high_eq]
  generalize (2 : ℚ) ^ (-1074 : Int) = lowest at *
  generalize (2 : ℚ) ^ (971 : Int) = highest at *
  constructor
  · nlinarith
  · calc amount ≤ (x.significand + 1 / 2) * 2 ^ x.scale := to_high
      _ < 2 ^ 53 * 2 ^ x.scale := mul_lt_mul_of_pos_right (by linarith) unit_pos
      _ ≤ 2 ^ 53 * highest := mul_le_mul_of_nonneg_left most (by positivity)

/-- A power of ten is beyond that of eight. -/
theorem eight_zpow_le {exponent : Int} (nonneg : 0 ≤ exponent) :
    (2 : ℚ) ^ (3 * exponent) ≤ 10 ^ exponent := by
  rw [zpow_mul]
  exact zpow_le_zpow_left₀ nonneg (by norm_num) (by norm_num)

/-- A decimal whose exponent is too great is above all doubles. -/
theorem amount_of_great {digits : Nat} (positive : 0 < digits) {exponent : Int}
    (great : 800 < exponent) : (2 : ℚ) ^ (1024 : Int) ≤ digits * 10 ^ exponent := by
  have one_le : (1 : ℚ) ≤ digits := by exact_mod_cast positive
  calc (2 : ℚ) ^ (1024 : Int)
    _ ≤ 2 ^ (3 * exponent) := zpow_le_zpow_right₀ one_le_two (by omega)
    _ ≤ 10 ^ exponent := eight_zpow_le (by omega)
    _ ≤ digits * 10 ^ exponent := le_mul_of_one_le_left (by positivity) one_le

/-- A decimal whose exponent is too small is below all doubles but zero. -/
theorem amount_of_small {digits : Nat} {exponent : Int}
    (small : (Nat.log2 digits : Int) + exponent < -800) :
    (digits : ℚ) * 10 ^ exponent < 2 ^ (-1075 : Int) := by
  have twos : (digits : ℚ) < 2 ^ (Nat.log2 digits + 1 : Int) := by
    exact_mod_cast @Nat.lt_log2_self digits
  have tens : (10 : ℚ) ^ exponent ≤ 2 ^ (3 * exponent) := by
    have inverse := inv_anti₀ (by positivity) (@eight_zpow_le (-exponent) (by omega))
    rwa [← zpow_neg, ← zpow_neg, mul_neg, neg_neg, neg_neg] at inverse
  calc (digits : ℚ) * 10 ^ exponent
    _ < 2 ^ (Nat.log2 digits + 1 : Int) * 10 ^ exponent :=
      mul_lt_mul_of_pos_right twos (by positivity)
    _ ≤ 2 ^ (Nat.log2 digits + 1 : Int) * 2 ^ (3 * exponent) :=
      mul_le_mul_of_nonneg_left tens (by positivity)
    _ = 2 ^ (Nat.log2 digits + 1 + 3 * exponent : Int) := (two_zpow_add _ _).symm
    _ ≤ 2 ^ (-1075 : Int) := zpow_le_zpow_right₀ one_le_two (by omega)

/-- A decimal that a double covers is read as the double. -/
theorem ofDecimal_of_covers (finite : x.isFinite = true) (positive : 0 < x.significand)
    {digits : Nat} {exponent : Int} (covers : x.Covers (digits * 10 ^ exponent)) :
    ofDecimal x.isNegative digits exponent = x := by
  obtain ⟨from_low, to_high⟩ := covers.range finite positive
  have digits_pos : 0 < digits := by
    rcases Nat.eq_zero_or_pos digits with rfl | positive
    · rw [Nat.cast_zero, zero_mul] at from_low
      exact absurd from_low (not_le.2 (by positivity))
    · exact positive
  have not_over : ¬ 800 < exponent := fun great =>
    absurd to_high (not_lt.2 (amount_of_great digits_pos great))
  have not_under : ¬ (Nat.log2 digits : Int) + exponent < -800 := fun small =>
    absurd from_low (not_le.2 (amount_of_small small))
  simp only [ofDecimal]
  rw [if_neg (by omega), if_neg (by omega), if_neg not_under]
  conv_rhs => rw [← assemble_parts finite]
  split_ifs with negative
  · refine ofRatio_of_covers finite digits_pos (Nat.pow_pos (by decide)) ?_ x.isNegative
    rw [zpow_eq_quotient, if_pos negative, if_pos negative, mul_one_div] at covers
    push_cast
    exact covers
  · refine ofRatio_of_covers finite (Nat.mul_pos digits_pos (Nat.pow_pos (by decide))) one_pos ?_
      x.isNegative
    rw [zpow_eq_quotient, if_neg negative, if_neg negative, div_one] at covers
    push_cast
    rw [div_one]
    exact covers

end Double

end Workflow.Number
