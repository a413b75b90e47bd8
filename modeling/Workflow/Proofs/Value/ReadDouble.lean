import Workflow.Proofs.Number.Shortest
import Workflow.Proofs.Value.ReadScalar

/-!
# Doubles are read back

A double that is finite is read back from its text.  The text lays out the shortest decimal of the
double in one of three ways, with zeros or an exponent as needed, and each of them keeps its amount.
-/

namespace Workflow

-- Powers are those of the core library, whatever else is imported.
attribute [local instance(high)] instPowNat

namespace Json

open Number (Double Decimal)

/-! ## Numbers in parts -/

theorem digitsValue_append (front back : List Char) :
    digitsValue (front ++ back) = digitsValue front * 10 ^ back.length + digitsValue back := by
  induction back using List.reverseRecOn with
  | nil => simp [digitsValue, Text.ofDigits]
  | append_singleton back c ih =>
      have step (chars : List Char) :
          digitsValue (chars ++ [c]) = digitsValue chars * 10 + (c.toNat - '0'.toNat) := by
        simp [digitsValue, Text.ofDigits]
      rw [← List.append_assoc, step, step, ih, List.length_append, List.length_singleton, Nat.pow_succ]
      ring

theorem digitsValue_zeros (count : Nat) : digitsValue (List.replicate count '0') = 0 := by
  induction count with
  | zero => rfl
  | succ count ih =>
      rw [List.replicate_succ', digitsValue_append, ih]
      rfl

/-- The text of the fraction of a number. -/
def fractionText : Option (List Char) → List Char
  | none => []
  | some digits => '.' :: digits

/-- A text of the exponent of a number. -/
inductive IsExponentText : Option Int → List Char → Prop where
  | none : IsExponentText none []
  | some (negative : Bool) {digits : List Char} (some_digits : digits ≠ [])
      (all : ∀ c ∈ digits, c.isDigit = true) :
      IsExponentText (some (if negative then -digitsValue digits else digitsValue digits))
        ('e' :: (if negative then '-' else '+') :: digits)

/-- A number as it is written with a fraction or an exponent: its whole part is a zero or does not begin
with one. -/
structure Written.IsProper (number : Written) : Prop where
  whole : number.whole = ['0'] ∨ ∃ c rest, number.whole = c :: rest ∧ c ≠ '0'
  digits : ∀ c ∈ number.whole, c.isDigit = true
  fraction : ∀ digits ∈ number.fraction, digits ≠ [] ∧ ∀ c ∈ digits, c.isDigit = true
  proper : (number.fraction.isNone && number.exponent.isNone) = false

/-- The amount that a number stands for, but for its sign. -/
def Written.amount (number : Written) : ℚ :=
  digitsValue (number.whole ++ number.fraction.getD []) *
    10 ^ (number.exponent.getD 0 - (number.fraction.getD []).length)

theorem readFraction_fractionText {fraction : Option (List Char)}
    (digits : ∀ digits ∈ fraction, digits ≠ [] ∧ ∀ c ∈ digits, c.isDigit = true) {left : List Char}
    (ends : ∀ c ∈ left.head?, c.isDigit = false ∧ c ≠ '.') :
    readFraction (fractionText fraction ++ left) = (fraction, left) := by
  cases fraction with
  | none =>
      cases left with
      | nil => rfl
      | cons c rest => simp [fractionText, readFraction, (ends c rfl).2]
  | some decimals =>
      obtain ⟨some_digits, all⟩ := digits decimals rfl
      obtain ⟨c, rest, rfl⟩ := List.exists_cons_of_ne_nil some_digits
      have split_eq := splitDigits_append all fun c member => (ends c member).1
      simp only [fractionText, List.cons_append, readFraction] at split_eq ⊢
      rw [split_eq]

theorem readExponent_of_isExponentText {exponent : Option Int} {chars : List Char}
    (written : IsExponentText exponent chars) {left : List Char} (ends : EndsNumber left) :
    readExponent (chars ++ left) = (exponent, left) := by
  cases written with
  | none => exact readExponent_of_ends ends
  | @some negative digits some_digits all =>
      obtain ⟨c, rest, rfl⟩ := List.exists_cons_of_ne_nil some_digits
      have split_eq := splitDigits_append all fun c member => (ends c member).1
      simp only [List.cons_append] at split_eq ⊢
      cases negative <;> simp [readExponent, Number.Literal.sign, split_eq]

theorem IsExponentText.ends {exponent : Option Int} {chars : List Char}
    (written : IsExponentText exponent chars) {left : List Char} (ends : EndsNumber left) :
    ∀ c ∈ (chars ++ left).head?, c.isDigit = false ∧ c ≠ '.' := by
  cases written with
  | none => exact fun c member => ⟨(ends c member).1, (ends c member).2.1⟩
  | some negative some_digits all =>
      rintro c ⟨⟩
      decide

theorem finishNumber_parts {number : Written} (proper : number.IsProper) {exponent left : List Char}
    (exponent_text : IsExponentText number.exponent exponent) (ends : EndsNumber left) :
    finishNumber number.negative number.whole
      (fractionText number.fraction ++ (exponent ++ left)) = (number, left) := by
  rw [finishNumber, readFraction_fractionText proper.fraction (exponent_text.ends ends)]
  dsimp only
  rw [readExponent_of_isExponentText exponent_text ends]

/-- The parts of a number are read, behind a minus or not. -/
theorem readWritten_parts {number : Written} (proper : number.IsProper) {exponent left : List Char}
    (exponent_text : IsExponentText number.exponent exponent) (ends : EndsNumber left) :
    readWritten ((if number.negative then ['-'] else []) ++
        (number.whole ++ (fractionText number.fraction ++ (exponent ++ left)))) =
      .ok (number, left) := by
  have finished := finishNumber_parts proper exponent_text ends
  have after_ends : ∀ c ∈ (fractionText number.fraction ++ (exponent ++ left)).head?,
      c.isDigit = false := by
    cases number.fraction with
    | none => exact fun c member => (exponent_text.ends ends c member).1
    | some digits =>
        rintro c ⟨⟩
        decide
  have split_eq := splitDigits_append proper.digits after_ends
  have digits := proper.digits
  generalize fractionText number.fraction ++ (exponent ++ left) = after at *
  rcases proper.whole with zero | ⟨c, rest, whole_eq, not_zero⟩
  · rw [zero] at finished ⊢
    cases negative : number.negative <;> simp [readWritten, ← finished, negative]
  · rw [whole_eq] at finished digits split_eq ⊢
    have not_minus : c ≠ '-' := by
      rintro rfl
      cases digits '-' List.mem_cons_self
    rw [List.cons_append] at split_eq ⊢
    cases negative : number.negative <;>
      simp [readWritten, not_minus, not_zero, split_eq, ← finished, negative]

/-- A number with a fraction or an exponent is read as a double. -/
theorem readNumber_parts {number : Written} (proper : number.IsProper) {exponent left : List Char}
    (exponent_text : IsExponentText number.exponent exponent) (ends : EndsNumber left) :
    readNumber .values ((if number.negative then ['-'] else []) ++
        (number.whole ++ (fractionText number.fraction ++ (exponent ++ left)))) =
      .ok (.float (Double.ofDecimal number.negative
        (digitsValue (number.whole ++ number.fraction.getD []))
        (number.exponent.getD 0 - (number.fraction.getD []).length)), left) := by
  rw [readNumber, readWritten_parts proper exponent_text ends, Outcome.ok_bind]
  dsimp only
  rw [Written.value, if_neg (by rw [proper.proper]; decide)]
  rfl

/-- A number is written in parts. -/
structure Written.IsWritten (number : Written) (chars : List Char) : Prop where
  proper : number.IsProper
  parts : ∃ exponent, IsExponentText number.exponent exponent ∧
    chars = number.whole ++ (fractionText number.fraction ++ exponent)

theorem isExponentText_toDigits (power : Int) {padded : List Char}
    (padded_eq : padded = if (Nat.toDigits 10 power.natAbs).length < 2
      then '0' :: Nat.toDigits 10 power.natAbs else Nat.toDigits 10 power.natAbs) :
    IsExponentText (some power) ('e' :: (if power < 0 then '-' else '+') :: padded) := by
  have value_eq : digitsValue padded = power.natAbs := by
    rw [padded_eq]
    split
    · rw [← List.singleton_append, digitsValue_append, digitsValue_toDigits]
      simp [digitsValue, Text.ofDigits]
    · exact digitsValue_toDigits _
  have all : ∀ c ∈ padded, c.isDigit = true := by
    intro c member
    rw [padded_eq] at member
    split at member
    · rcases List.mem_cons.1 member with rfl | later
      · decide
      · exact isDigit_of_mem_toDigits c later
    · exact isDigit_of_mem_toDigits c member
  have some_digits : padded ≠ [] := by
    rw [padded_eq]
    split
    · exact List.cons_ne_nil _ _
    · exact Nat.toDigits_ne_nil
  have power_eq : power = if decide (power < 0) then -(digitsValue padded : Int)
      else digitsValue padded := by
    rw [value_eq]
    split_ifs with negative
    · rw [decide_eq_true_eq] at negative
      omega
    · rw [decide_eq_true_eq] at negative
      omega
  have written := IsExponentText.some (decide (power < 0)) some_digits all
  rw [← power_eq] at written
  simpa using written

section

variable {d : Decimal} {c : Char} {tail : List Char}
  (all : ∀ digit ∈ c :: tail, digit.isDigit = true)
  (value_eq : digitsValue (c :: tail) = d.coefficient)

include all value_eq

/-- A decimal with an exponent: one digit, and the others behind a point. -/
theorem exists_written_scientific (not_zero : c ≠ '0') (negative : Bool) {exponent : List Char}
    (written : IsExponentText (some (d.exponent + tail.length)) exponent) :
    ∃ number : Written, number.negative = negative ∧ number.amount = d.amount ∧
      number.IsWritten (c :: ((if tail.isEmpty then [] else '.' :: tail) ++ exponent)) := by
  let fraction := if tail.isEmpty then none else some tail
  refine ⟨{ negative, whole := [c], fraction, exponent := some (d.exponent + tail.length) }, rfl, ?_,
    ⟨.inr ⟨c, [], rfl, not_zero⟩, ?_, ?_, ?_⟩, exponent, written, ?_⟩
  · have decimals : fraction.getD [] = tail := by
      cases tail <;> rfl
    rw [Written.amount, decimals, Decimal.amount, List.singleton_append, value_eq]
    congr 2
    rw [Option.getD_some]
    omega
  · rintro digit (_ | ⟨_, ⟨⟩⟩)
    exact all c List.mem_cons_self
  · intro digits member
    cases tail with
    | nil => cases member
    | cons next rest =>
        obtain rfl : next :: rest = digits := Option.some.inj member
        exact ⟨List.cons_ne_nil _ _, fun digit among => all digit (List.mem_cons_of_mem c among)⟩
  · simp
  · cases tail <;> rfl

/-- A decimal below one: zeros stand between the point and the digits. -/
theorem exists_written_below (negative : Bool) {zeros : Nat}
    (exponent_eq : d.exponent = -(zeros + (tail.length + 1) : Nat)) :
    ∃ number : Written, number.negative = negative ∧ number.amount = d.amount ∧
      number.IsWritten ('0' :: '.' :: (List.replicate zeros '0' ++ c :: tail)) := by
  refine ⟨{ negative, whole := ['0'], fraction := some (List.replicate zeros '0' ++ c :: tail) }, rfl,
    ?_, ⟨.inl rfl, ?_, ?_, rfl⟩, [], .none, by simp [fractionText]⟩
  · have value : digitsValue ('0' :: (List.replicate zeros '0' ++ c :: tail)) = d.coefficient := by
      rw [← List.cons_append, ← List.replicate_succ, digitsValue_append, digitsValue_zeros, Nat.zero_mul,
        Nat.zero_add, value_eq]
    rw [Written.amount, Option.getD_some, List.singleton_append, value, Decimal.amount, exponent_eq]
    simp
  · rintro digit (_ | ⟨_, ⟨⟩⟩)
    rfl
  · rintro digits ⟨⟩
    refine ⟨by simp, fun digit among => ?_⟩
    rcases List.mem_append.1 among with zero | later
    · rw [List.eq_of_mem_replicate zero]
      rfl
    · exact all digit later

/-- A decimal with digits on both sides of the point. -/
theorem exists_written_between (not_zero : c ≠ '0') (negative : Bool) {whole : Nat}
    (some_whole : 0 < whole) (inside : whole < tail.length + 1)
    (exponent_eq : d.exponent = whole - (tail.length + 1 : Nat)) :
    ∃ number : Written, number.negative = negative ∧ number.amount = d.amount ∧
      number.IsWritten ((c :: tail).take whole ++ '.' :: (c :: tail).drop whole) := by
  have rejoined : (c :: tail).take whole ++ (c :: tail).drop whole = c :: tail :=
    List.take_append_drop whole (c :: tail)
  refine ⟨{ negative, whole := (c :: tail).take whole, fraction := some ((c :: tail).drop whole) }, rfl,
    ?_, ⟨.inr ?_, ?_, ?_, rfl⟩, [], .none, by simp [fractionText]⟩
  · rw [Written.amount, Option.getD_some, rejoined, value_eq, Decimal.amount, exponent_eq]
    congr 2
    rw [List.length_drop, List.length_cons, Option.getD_none]
    omega
  · obtain ⟨less, rfl⟩ := Nat.exists_eq_add_of_le' some_whole
    exact ⟨c, tail.take less, rfl, not_zero⟩
  · exact fun digit among => all digit (List.mem_of_mem_take among)
  · rintro digits ⟨⟩
    exact ⟨by simp; omega, fun digit among => all digit (List.mem_of_mem_drop among)⟩

/-- A whole decimal: zeros stand between the digits and the point. -/
theorem exists_written_whole (not_zero : c ≠ '0') (negative : Bool) {zeros : Nat}
    (exponent_eq : d.exponent = zeros) :
    ∃ number : Written, number.negative = negative ∧ number.amount = d.amount ∧
      number.IsWritten (c :: tail ++ List.replicate zeros '0' ++ ['.', '0']) := by
  refine ⟨{ negative, whole := c :: tail ++ List.replicate zeros '0', fraction := some ['0'] }, rfl,
    ?_, ⟨.inr ⟨c, _, rfl, not_zero⟩, ?_, ?_, rfl⟩, [], .none, by simp [fractionText]⟩
  · have value : digitsValue (c :: tail ++ List.replicate zeros '0' ++ ['0']) =
        d.coefficient * 10 ^ zeros * 10 := by
      rw [digitsValue_append, digitsValue_append, digitsValue_zeros, value_eq]
      simp [digitsValue, Text.ofDigits]
    rw [Written.amount, Option.getD_some, value, Decimal.amount, exponent_eq]
    simp
  · intro digit among
    rcases List.mem_append.1 among with early | zero
    · exact all digit early
    · rw [List.eq_of_mem_replicate zero]
      rfl
  · rintro digits ⟨⟩
    exact ⟨List.cons_ne_nil _ _, List.forall_mem_singleton.2 rfl⟩

/-- A decimal with a point in or behind its digits, which are filled up with zeros to the point. -/
theorem exists_written_filled (not_zero : c ≠ '0') (negative : Bool) {whole : Nat}
    (some_whole : 0 < whole) (exponent_eq : d.exponent = whole - (tail.length + 1 : Nat)) :
    let filled := c :: tail ++ List.replicate (whole - (c :: tail).length) '0'
    let fraction := filled.drop whole
    ∃ number : Written, number.negative = negative ∧ number.amount = d.amount ∧
      number.IsWritten
        (filled.take whole ++ '.' :: (if fraction.isEmpty then ['0'] else fraction)) := by
  dsimp only
  have count : (c :: tail).length = tail.length + 1 := rfl
  by_cases inside : whole < tail.length + 1
  · have no_zeros : whole - (c :: tail).length = 0 := by omega
    have some_left : ((c :: tail).drop whole).isEmpty = false := by
      simp
      omega
    rw [no_zeros, List.replicate_zero, List.append_nil, some_left]
    exact exists_written_between all value_eq not_zero negative some_whole inside exponent_eq
  · have length_eq : (c :: tail ++ List.replicate (whole - (c :: tail).length) '0').length =
        whole := by
      rw [List.length_append, List.length_replicate]
      omega
    rw [List.drop_of_length_le length_eq.le, List.take_of_length_le length_eq.le]
    exact exists_written_whole all value_eq not_zero negative (by omega)

end

/-- The layout of a decimal is that of a number with its amount. -/
theorem exists_written_layout (negative : Bool) {d : Decimal} (positive : 0 < d.coefficient) :
    ∃ number : Written, number.negative = negative ∧ number.amount = d.amount ∧
      number.IsWritten (Double.layout d).toList := by
  have no_zero (rest : List Char) : Nat.toDigits 10 d.coefficient ≠ '0' :: rest :=
    head_toDigits_ne positive
  have all := @isDigit_of_mem_toDigits d.coefficient
  have value_eq := digitsValue_toDigits d.coefficient
  have some_digits : Nat.toDigits 10 d.coefficient ≠ [] := Nat.toDigits_ne_nil
  rw [Double.layout]
  dsimp only
  generalize Nat.toDigits 10 d.coefficient = digits at *
  obtain ⟨c, tail, rfl⟩ := List.exists_cons_of_ne_nil some_digits
  have not_zero : c ≠ '0' := by
    rintro rfl
    exact no_zero tail rfl
  have leading_eq : d.exponent + ((c :: tail).length : Int) - 1 = d.exponent + tail.length := by
    rw [List.length_cons]
    omega
  rw [leading_eq]
  split
  · rw [String.toList_ofList]
    have written := isExponentText_toDigits (d.exponent + tail.length) rfl
    have found := exists_written_scientific all value_eq not_zero negative written
    simpa using found
  · split
    · rw [String.toList_ofList]
      exact exists_written_below all value_eq negative (by omega)
    · rw [String.toList_ofList]
      exact exists_written_filled all value_eq not_zero negative (Nat.succ_pos _) (by omega)

end Json

/-! ## Doubles -/

namespace Number.Double

variable {x : Double}

/-- The text of a finite double is that of a number that is read as it. -/
theorem exists_written_text (finite : x.isFinite = true) :
    ∃ (number : Json.Written) (chars : List Char),
      (Json.writeDouble x).toList = (if number.negative then ['-'] else []) ++ chars ∧
      number.IsWritten chars ∧
      ofDecimal number.negative (Json.digitsValue (number.whole ++ number.fraction.getD []))
        (number.exponent.getD 0 - (number.fraction.getD []).length) = x := by
  have sign_eq : (if x.isNegative then "-" else "").toList = if x.isNegative then ['-'] else [] := by
    cases x.isNegative <;> rfl
  rw [Json.writeDouble, isNaN_of_isFinite finite, isInfinite_of_isFinite finite, text,
    isNaN_of_isFinite finite, isInfinite_of_isFinite finite]
  rcases significand_eq_zero_or_pos finite with ⟨zero, scale_eq, none⟩ | ⟨other, positive⟩
  · refine ⟨{ negative := x.isNegative, whole := ['0'], fraction := some ['0'] }, ['0', '.', '0'], ?_,
      ⟨⟨.inl rfl, List.forall_mem_singleton.2 rfl, ?_, rfl⟩, [], .none, rfl⟩, ?_⟩
    · simp only [zero, if_true, Bool.false_eq_true, if_false, String.toList_append, sign_eq]
      rfl
    · rintro digits ⟨⟩
      exact ⟨List.cons_ne_nil _ _, List.forall_mem_singleton.2 rfl⟩
    · have assembled := assemble_parts finite
      rw [scale_eq, none] at assembled
      exact assembled
  · have covers := covers_shortest finite positive
    obtain ⟨number, negative_eq, amount_eq, written⟩ :=
      Json.exists_written_layout x.isNegative (covers.coefficient_pos finite positive)
    refine ⟨number, (layout x.shortest).toList, ?_, written, ?_⟩
    · simp only [other, Bool.false_eq_true, if_false, String.toList_append, sign_eq, negative_eq]
    · rw [← amount_eq] at covers
      rw [negative_eq]
      exact ofDecimal_of_covers finite positive covers

end Number.Double

namespace Json

/-- A finite double is read back. -/
theorem readNumber_writeDouble {x : Number.Double} (finite : x.isFinite = true) {left : List Char}
    (ends : EndsNumber left) :
    readNumber .values ((writeDouble x).toList ++ left) = .ok (.float x, left) := by
  obtain ⟨number, chars, chars_eq, ⟨proper, exponent, exponent_text, rfl⟩, value_eq⟩ :=
    x.exists_written_text finite
  have read := readNumber_parts proper exponent_text ends
  rw [value_eq] at read
  rw [← read, chars_eq]
  simp only [List.append_assoc]

theorem beginsNumber_writeDouble {x : Number.Double} (finite : x.isFinite = true) (left : List Char) :
    BeginsNumber ((writeDouble x).toList ++ left) := by
  obtain ⟨number, chars, chars_eq, ⟨proper, exponent, -, rfl⟩, -⟩ := x.exists_written_text finite
  rw [chars_eq]
  have digits := proper.digits
  obtain ⟨c, rest, whole_eq⟩ : ∃ c rest, number.whole = c :: rest := by
    rcases proper.whole with zero | ⟨c, rest, whole_eq, -⟩
    · exact ⟨_, _, zero⟩
    · exact ⟨c, rest, whole_eq⟩
  rw [whole_eq] at digits ⊢
  have digit := digits c List.mem_cons_self
  cases number.negative
  · exact .digit digit
  · exact .minus digit

end Json

end Workflow
