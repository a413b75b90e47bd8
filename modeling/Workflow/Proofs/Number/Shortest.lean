import Workflow.Proofs.Number.Rounding

/-!
# The shortest decimal of a double

The search for the shortest decimal tries one digit after the other.  Seventeen always suffice: the
grid of seventeen digits is finer than the interval of amounts that are read as the double.
-/

namespace Workflow.Number

-- Powers are those of the core library, whatever else is imported.
attribute [local instance(high)] instPowNat

theorem Decimal.amount_trimZeros (fuel : Nat) (d : Decimal) : (trimZeros fuel d).amount = d.amount := by
  induction fuel generalizing d with
  | zero => rfl
  | succ fuel ih =>
      rw [trimZeros]
      split_ifs with trims
      · obtain ⟨coefficient, exponent⟩ := d
        obtain ⟨tenth, rfl⟩ := Nat.dvd_of_mod_eq_zero trims.2
        rw [ih, amount, amount]
        dsimp only
        rw [Nat.mul_div_cancel_left _ (by decide), zpow_add_one₀ (by norm_num)]
        push_cast
        ring
      · rfl

namespace Double

variable {x : Double} {exponent : Int}

/-- The magnitude of a finite double. -/
def magnitude (x : Double) : ℚ := x.significand * 2 ^ x.scale

theorem ratio_eq (x : Double) : 0 < x.ratio.2 ∧ (x.ratio.1 : ℚ) / x.ratio.2 = x.magnitude := by
  rw [magnitude, zpow_eq_quotient, ratio]
  split
  · refine ⟨Nat.pow_pos two_pos, ?_⟩
    push_cast
    ring
  · refine ⟨one_pos, ?_⟩
    push_cast
    ring

theorem floorOn_le (x : Double) (exponent : Int) :
    x.floorOn exponent * 10 ^ exponent ≤ x.magnitude ∧
      x.magnitude < (x.floorOn exponent + 1) * 10 ^ exponent := by
  obtain ⟨den_pos, ratio_eq⟩ := x.ratio_eq
  have unit_pos : (0 : ℚ) < 10 ^ exponent := by positivity
  rw [← le_div_iff₀ unit_pos, ← div_lt_iff₀ unit_pos, ← ratio_eq]
  have scaled_eq : ∃ num den : Nat, 0 < den ∧ x.floorOn exponent = num / den ∧
      (x.ratio.1 / x.ratio.2 / 10 ^ exponent : ℚ) = num / den := by
    rw [zpow_eq_quotient, floorOn]
    dsimp only
    split
    · exact ⟨_, _, den_pos, rfl, by push_cast; field_simp⟩
    · exact ⟨_, _, Nat.mul_pos den_pos (Nat.pow_pos (by decide)), rfl, by push_cast; field_simp⟩
  obtain ⟨num, den, positive, floor_eq, amount_eq⟩ := scaled_eq
  have den_pos : (0 : ℚ) < den := by exact_mod_cast positive
  rw [floor_eq, amount_eq, le_div_iff₀ den_pos, div_lt_iff₀ den_pos]
  constructor
  · exact_mod_cast Nat.div_mul_le_self num den
  · rw [mul_comm]
    exact_mod_cast Nat.lt_mul_div_succ num positive

theorem digitCount_pos (number : Nat) : 0 < Decimal.digitCount number :=
  Nat.length_toDigits_pos

theorem lt_digitCount (number : Nat) : number < 10 ^ Decimal.digitCount number :=
  (Nat.length_toDigits_le_iff (by decide) (digitCount_pos number)).1 (Nat.le_refl _)

theorem digitCount_le {number : Nat} (positive : 0 < number) :
    10 ^ (Decimal.digitCount number - 1) ≤ number := by
  rcases Nat.eq_zero_or_pos (Decimal.digitCount number - 1) with none | some
  · rwa [none, Nat.pow_zero]
  · refine Nat.not_lt.1 fun less => ?_
    have fewer := (Nat.length_toDigits_le_iff (by decide) some).2 less
    have digits := digitCount_pos number
    rw [← Decimal.digitCount] at fewer
    omega

/-- The power of ten of the leading digit is at most the quotient. -/
theorem leadingPower_le {num den : Nat} (num_pos : 0 < num) (den_pos : 0 < den) :
    (10 : ℚ) ^ leadingPower num den ≤ num / den := by
  have positive : (0 : ℚ) < den := by exact_mod_cast den_pos
  rw [leadingPower, le_div_iff₀ positive]
  split_ifs with whole
  · have digits := digitCount_pos (num / den)
    have power_eq : ((Decimal.digitCount (num / den) : Int) - 1) =
        ((Decimal.digitCount (num / den) - 1 : Nat) : Int) := by omega
    rw [power_eq, zpow_natCast]
    have low := digitCount_le (Nat.div_pos whole den_pos)
    exact_mod_cast (Nat.mul_le_mul_right den low).trans (Nat.div_mul_le_self num den)
  · dsimp only
    have least := lt_digitCount ((den + num - 1) / num - 1)
    generalize Decimal.digitCount ((den + num - 1) / num - 1) = count at *
    have enough : den ≤ num * 10 ^ count := by
      have covers : den ≤ num * ((den + num - 1) / num) := by
        have := Nat.lt_mul_div_succ (den + num - 1) num_pos
        rw [Nat.mul_add] at this
        omega
      exact covers.trans (Nat.mul_le_mul_left num (by omega))
    rw [Int.negOfNat_eq, zpow_neg, Int.ofNat_eq_natCast, zpow_natCast,
      inv_mul_le_iff₀ (by positivity), mul_comm]
    exact_mod_cast enough

/-- What is chosen on a grid is read back. -/
theorem covers_of_onGrid? (positive : 0 < x.significand) {d : Decimal}
    (found : x.onGrid? exponent = some d) : x.Covers d.amount := by
  rw [← readsBack_iff positive]
  unfold onGrid? at found
  dsimp only at found
  split at found
  · split at found
    · obtain rfl := Option.some.inj found
      assumption
    · obtain rfl := Option.some.inj found
      assumption
    · obtain rfl := Option.some.inj found
      split <;> assumption
  · obtain rfl := Option.some.inj found
    assumption
  · obtain rfl := Option.some.inj found
    assumption
  · cases found

/-- A neighbour on a grid is chosen if one of both is read back. -/
theorem exists_onGrid?_of_readsBack
    (hit : x.readsBack ⟨x.floorOn exponent, exponent⟩ = true ∨
      x.readsBack ⟨x.floorOn exponent + 1, exponent⟩ = true) :
    ∃ d, x.onGrid? exponent = some d := by
  simp only [onGrid?]
  cases down : x.readsBack ⟨x.floorOn exponent, exponent⟩ with
  | true =>
      cases up : x.readsBack ⟨x.floorOn exponent + 1, exponent⟩ with
      | true =>
          dsimp only
          split <;> exact ⟨_, rfl⟩
      | false => exact ⟨_, rfl⟩
  | false =>
      cases up : x.readsBack ⟨x.floorOn exponent + 1, exponent⟩ with
      | true => exact ⟨_, rfl⟩
      | false => simp [down, up] at hit

/-- A double covers all that lies between the midpoints. -/
theorem covers_of_between {amount : ℚ}
    (low : (4 * x.significand - (if x.fractionField == 0 && 1 < x.exponentField then 1 else 2 : Nat)) *
      (2 ^ x.scale / 4) < amount) (high : amount < (4 * x.significand + 2) * (2 ^ x.scale / 4)) :
    x.Covers amount := by
  simp only [Covers, unit_eq]
  split
  · exact ⟨low.le, high.le⟩
  · exact ⟨low, high⟩

/-- A double with a nearer neighbour below has the least significand of its scale. -/
theorem significand_of_near (finite : x.isFinite = true)
    (near : (x.fractionField == 0 && decide (1 < x.exponentField)) = true) :
    (x.significand : ℚ) = 2 ^ 52 := by
  obtain ⟨no_fraction, more⟩ := Bool.and_eq_true_iff.1 near
  rw [beq_iff_eq] at no_fraction
  rw [decide_eq_true_eq] at more
  rcases parts finite with ⟨-, -, none, -⟩ | ⟨-, -, -, significand_eq, -⟩
  · omega
  · rw [significand_eq, no_fraction]
    norm_num

/-- A grid of seventeen digits has a neighbour that is read back. -/
theorem exists_onGrid? (finite : x.isFinite = true) (positive : 0 < x.significand)
    (fine : 10 ^ exponent * 10 ^ 16 ≤ x.magnitude) : ∃ d, x.onGrid? exponent = some d := by
  obtain ⟨floor_le, lt_floor⟩ := x.floorOn_le exponent
  apply exists_onGrid?_of_readsBack
  rw [readsBack_iff positive, readsBack_iff positive, Decimal.amount, Decimal.amount]
  push_cast
  have small : (x.significand : ℚ) + 1 ≤ 2 ^ 53 := by exact_mod_cast significand_lt finite
  have unit_pos : (0 : ℚ) < 2 ^ x.scale := by positivity
  have step_pos : (0 : ℚ) < 10 ^ exponent := by positivity
  have covers := @covers_of_between x
  have whole := significand_of_near finite
  rw [magnitude] at fine floor_le lt_floor
  generalize (2 : ℚ) ^ x.scale = unit at *
  generalize (10 : ℚ) ^ exponent = step at *
  cases near : (x.fractionField == 0 && decide (1 < x.exponentField)) with
  | true =>
      -- Below a power of two the midpoint is nearer, but the step is smaller against the unit.
      simp only [near, if_true] at covers
      rw [whole near] at *
      refine .inr (covers ?_ ?_) <;> push_cast <;> nlinarith
  | false =>
      simp only [near, Bool.false_eq_true, if_false] at covers
      have step_lt : step < unit := by nlinarith
      by_cases high : (x.floorOn exponent + 1 : ℚ) * step < x.significand * unit + unit / 2
      · refine .inr (covers ?_ ?_) <;> push_cast <;> linarith
      · refine .inl (covers ?_ ?_) <;> push_cast <;> linarith

theorem covers_firstGrid (finite : x.isFinite = true) (positive : 0 < x.significand) {leading : Int}
    (below : 10 ^ leading ≤ x.magnitude) {digits : Nat} (fuel : Nat) (count : digits + fuel = 17) :
    x.Covers (x.firstGrid leading digits (fuel + 1)).amount := by
  induction fuel generalizing digits with
  | zero =>
      obtain rfl : digits = 17 := count
      have fine : 10 ^ (leading - (17 : Nat) + 1) * 10 ^ 16 ≤ x.magnitude := by
        refine le_of_eq_of_le ?_ below
        rw [← zpow_natCast, ← zpow_add₀ (by norm_num)]
        congr 1
        omega
      obtain ⟨d, found⟩ := exists_onGrid? finite positive fine
      rw [firstGrid, found]
      exact covers_of_onGrid? positive found
  | succ fuel ih =>
      rw [firstGrid]
      split
      · exact covers_of_onGrid? positive ‹_›
      · exact ih (by omega)

/-- The shortest decimal of a double that is not zero is read back. -/
theorem covers_shortest (finite : x.isFinite = true) (positive : 0 < x.significand) :
    x.Covers x.shortest.amount := by
  obtain ⟨den_pos, ratio_eq⟩ := x.ratio_eq
  have num_pos : 0 < x.ratio.1 := by
    rw [ratio]
    split
    · exact positive
    · exact Nat.mul_pos positive (Nat.pow_pos two_pos)
  have below := leadingPower_le num_pos den_pos
  rw [ratio_eq] at below
  rw [shortest, Decimal.amount_trimZeros]
  exact covers_firstGrid finite positive below 16 rfl

theorem Covers.coefficient_pos {d : Decimal} (finite : x.isFinite = true)
    (positive : 0 < x.significand) (covers : x.Covers d.amount) : 0 < d.coefficient := by
  refine Nat.pos_of_ne_zero fun none => ?_
  have low := (covers.range finite positive).1
  rw [Decimal.amount, none, Nat.cast_zero, zero_mul] at low
  exact absurd low (not_le.2 (by positivity))

end Double

end Workflow.Number
