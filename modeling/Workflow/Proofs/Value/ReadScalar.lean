import Workflow.Json.Writer
import Workflow.Proofs.Text.Hexadecimal
import Workflow.Proofs.Value.Readable

/-!
# Strings and integers are read back

A string is read back from its JSON text in every style, and an integer unless it has too many digits.
-/

namespace Workflow

-- Powers are those of the core library, whatever else is imported.
attribute [local instance(high)] instPowNat

namespace Json

open Text (hex)

/-! ## Strings -/

/-- No character is half of a surrogate pair. -/
theorem toNat_valid (c : Char) : c.toNat < 0xd800 ∨ 0xdfff < c.toNat ∧ c.toNat < 0x110000 :=
  c.valid

/-- The units that a character is written as: those of UTF-16 if it is escaped. -/
def unitsOf (style : Style) (c : Char) : List Nat :=
  if c.toNat < 0x10000 ∨ style.ascii = false then [c.toNat]
  else [0xd800 + (c.toNat - 0x10000) / 0x400, 0xdc00 + (c.toNat - 0x10000) % 0x400]

theorem isSome_hexDigit?_of_mem_toDigits {number : Nat} {c : Char}
    (member : c ∈ Nat.toDigits 16 number) : (hexDigit? c).isSome = true := by
  have all : ∀ digit : Fin 16, (hexDigit? (Nat.digitChar digit)).isSome = true := by decide
  induction number using Nat.strongRecOn with
  | ind number ih =>
      by_cases small : number < 16
      · rw [Nat.toDigits_of_lt_base small, List.mem_singleton] at member
        rw [member]
        exact all ⟨number, small⟩
      · rw [Nat.toDigits_of_base_le (by decide) (by omega), List.mem_append,
          List.mem_singleton] at member
        rcases member with earlier | rfl
        · exact ih (number / 16) (by omega) earlier
        · exact all ⟨number % 16, Nat.mod_lt _ (by decide)⟩

/-- Four hexadecimal digits are read as the number they were written for. -/
theorem exists_hex_four {number : Nat} (small : number < 0x10000) :
    ∃ a b c d, hex 4 number = [a, b, c, d] ∧ hexUnit? a b c d = some number := by
  have digits_le : (Nat.toDigits 16 number).length ≤ 4 :=
    (Nat.length_toDigits_le_iff (by decide) (by decide)).2 small
  have length_eq : (hex 4 number).length = 4 := by
    rw [hex, List.length_append, List.length_replicate]
    omega
  have digits (c : Char) (member : c ∈ hex 4 number) : (hexDigit? c).isSome = true := by
    rcases List.mem_append.1 member with zero | digit
    · rw [List.eq_of_mem_replicate zero]
      rfl
    · exact isSome_hexDigit?_of_mem_toDigits digit
  obtain ⟨a, b, c, d, hex_eq⟩ : ∃ a b c d, hex 4 number = [a, b, c, d] := by
    rcases hex_eq : hex 4 number with _ | ⟨a, _ | ⟨b, _ | ⟨c, _ | ⟨d, _ | ⟨_, _⟩⟩⟩⟩⟩
    case cons.cons.cons.cons.nil => exact ⟨a, b, c, d, rfl⟩
    all_goals simp [hex_eq] at length_eq
  refine ⟨a, b, c, d, hex_eq, ?_⟩
  have read := Text.ofHex_hex 4 number
  rw [hex_eq] at digits read
  obtain ⟨p, first⟩ := Option.isSome_iff_exists.1 (digits a (by simp))
  obtain ⟨q, second⟩ := Option.isSome_iff_exists.1 (digits b (by simp))
  obtain ⟨r, third⟩ := Option.isSome_iff_exists.1 (digits c (by simp))
  obtain ⟨s, fourth⟩ := Option.isSome_iff_exists.1 (digits d (by simp))
  simp only [Text.ofHex, List.map_cons, List.map_nil, first, second, third, fourth,
    Option.getD_some] at read
  simp only [hexUnit?, first, second, third, fourth]
  exact congrArg some read

/-- An escaped unit is read. -/
theorem readUnits_escape (start : List Char) {unit : Nat} (small : unit < 0x10000)
    {rest : List Char} (more : rest ≠ []) :
    readUnits start ('\\' :: 'u' :: hex 4 unit ++ rest) =
      (readUnits start rest).map fun (units, left) => (unit :: units, left) := by
  obtain ⟨a, b, c, d, hex_eq, unit_eq⟩ := exists_hex_four small
  have goes : rest.isEmpty = false := by simpa using more
  rw [hex_eq]
  simp [readUnits, unit_eq, goes]

/-- A character that stands for itself is read. -/
theorem readUnits_plain (start : List Char) {c : Char} (no_quote : c ≠ '"') (no_slash : c ≠ '\\')
    (printable : 0x1f < c.toNat) {rest : List Char} :
    readUnits start (c :: rest) =
      (readUnits start rest).map fun (units, left) => ([c.toNat] ++ units, left) := by
  simp [readUnits, no_slash, Nat.not_le.2 printable]

/-- The units of a character that is written by them are read. -/
theorem readUnits_unicodeEscape {style : Style} (start : List Char) (c : Char)
    (escaped : c.toNat < 0x10000 ∨ style.ascii ≠ false) {rest : List Char} (more : rest ≠ []) :
    readUnits start (unicodeEscape c ++ rest) =
      (readUnits start rest).map fun (units, left) => (unitsOf style c ++ units, left) := by
  have units_eq : unitsOf style c = if c.toNat < 0x10000 then [c.toNat] else
      [0xd800 + (c.toNat - 0x10000) / 0x400, 0xdc00 + (c.toNat - 0x10000) % 0x400] := by
    rw [unitsOf]
    refine if_congr ?_ rfl rfl
    exact ⟨(·.elim id fun raw => escaped.resolve_right (not_not_intro raw)), .inl⟩
  rw [unicodeEscape, units_eq]
  split_ifs with short
  · rw [readUnits_escape start short more]
    rfl
  · have valid := toNat_valid c
    have high_small : 0xd800 + (c.toNat - 0x10000) / 0x400 < 0x10000 := by omega
    have low_small : 0xdc00 + (c.toNat - 0x10000) % 0x400 < 0x10000 := by omega
    have goes_on : '\\' :: 'u' :: hex 4 (0xdc00 + (c.toNat - 0x10000) % 0x400) ++ rest ≠ [] :=
      List.cons_ne_nil _ _
    rw [List.append_assoc, readUnits_escape start high_small goes_on,
      readUnits_escape start low_small more]
    cases readUnits start rest <;> rfl

/-- The units of a written character are read. -/
theorem readUnits_escapeChar (style : Style) (start : List Char) (c : Char) {rest : List Char}
    (more : rest ≠ []) :
    readUnits start (escapeChar style c ++ rest) =
      (readUnits start rest).map fun (units, left) => (unitsOf style c ++ units, left) := by
  unfold escapeChar
  -- One case for each way to write a character, in the order in which they are tried.
  split_ifs with special as_is is_newline is_return is_tab is_feed is_backspace
  · rcases special with rfl | rfl <;> simp [readUnits, escaped?, unitsOf]
  · rw [not_or] at special
    have single : c.toNat < 0x10000 ∨ style.ascii = false :=
      as_is.2.imp_left fun low => Nat.lt_of_le_of_lt low (by decide)
    rw [unitsOf, if_pos single]
    exact readUnits_plain start special.1 special.2 (Nat.lt_of_lt_of_le (by decide) as_is.1)
  · simp [is_newline, readUnits, escaped?, unitsOf]
  · simp [is_return, readUnits, escaped?, unitsOf]
  · simp [is_tab, readUnits, escaped?, unitsOf]
  · obtain rfl : c = '\x0c' := Char.toNat_inj.1 is_feed
    simp [readUnits, escaped?, unitsOf]
  · obtain rfl : c = '\x08' := Char.toNat_inj.1 is_backspace
    simp [readUnits, escaped?, unitsOf]
  · refine readUnits_unicodeEscape start c ?_ more
    by_cases control : c.toNat < 0x20
    · exact .inl (Nat.lt_trans control (by decide))
    · exact .inr fun raw => as_is ⟨Nat.not_lt.1 control, .inr raw⟩

/-- A character is made of its units. -/
theorem joinUnits_unitsOf_append (style : Style) (c : Char) (units : List Nat) :
    joinUnits (unitsOf style c ++ units) = c :: joinUnits units := by
  rw [unitsOf]
  have valid := toNat_valid c
  split_ifs with single
  · have high : isHighSurrogate c.toNat = false := by
      simp only [isHighSurrogate, Bool.and_eq_false_iff, decide_eq_false_iff_not]
      omega
    have low : isLowSurrogate c.toNat = false := by
      simp only [isLowSurrogate, Bool.and_eq_false_iff, decide_eq_false_iff_not]
      omega
    cases units <;> simp [joinUnits, high, low, Char.ofNat_toNat]
  · have high : isHighSurrogate (0xd800 + (c.toNat - 0x10000) / 0x400) = true := by
      simp only [isHighSurrogate, Bool.and_eq_true, decide_eq_true_eq]
      omega
    have low : isLowSurrogate (0xdc00 + (c.toNat - 0x10000) % 0x400) = true := by
      simp only [isLowSurrogate, Bool.and_eq_true, decide_eq_true_eq]
      omega
    have code_eq : 0x10000 + (0xd800 + (c.toNat - 0x10000) / 0x400 - 0xd800) * 0x400 +
        (0xdc00 + (c.toNat - 0x10000) % 0x400 - 0xdc00) = c.toNat := by
      omega
    simp only [List.cons_append, List.nil_append, joinUnits, high, low, code_eq, Bool.and_self,
      if_true, Char.ofNat_toNat]

/-- A written string is read back. -/
theorem readString_escaped (style : Style) (text : String) (left : List Char) :
    readString (text.toList.flatMap (escapeChar style) ++ '"' :: left) = .ok (text, left) := by
  have read (start chars : List Char) :
      readUnits start (chars.flatMap (escapeChar style) ++ '"' :: left) =
        .ok (chars.flatMap (unitsOf style), left) := by
    induction chars with
    | nil => simp [readUnits]
    | cons c rest ih =>
        rw [List.flatMap_cons, List.append_assoc, readUnits_escapeChar style start c (by simp), ih]
        rfl
  have joined (chars : List Char) : joinUnits (chars.flatMap (unitsOf style)) = chars := by
    induction chars with
    | nil => rfl
    | cons c rest ih => rw [List.flatMap_cons, joinUnits_unitsOf_append, ih]
  rw [readString, read]
  simp [Except.map, joined]

/-! ## Numbers -/

/-- A text that may follow a number: it does not go on with it. -/
def EndsNumber (left : List Char) : Prop :=
  ∀ c ∈ left.head?, c.isDigit = false ∧ c ≠ '.' ∧ c ≠ 'e' ∧ c ≠ 'E'

/-- A text begins as numbers do. -/
inductive BeginsNumber : List Char → Prop where
  | digit {c : Char} {rest : List Char} (digit : c.isDigit = true) : BeginsNumber (c :: rest)
  | minus {c : Char} {rest : List Char} (digit : c.isDigit = true) : BeginsNumber ('-' :: c :: rest)

theorem readValue_of_beginsNumber {numbers : Numbers} {depth fuel : Nat} {chars : List Char}
    (begins : BeginsNumber chars) :
    readValue numbers depth (fuel + 1) chars = readNumber numbers chars := by
  rw [readValue.eq_def]
  dsimp only
  split <;> first | rfl | (cases begins <;> contradiction)

theorem splitDigits_append {digits left : List Char} (all : ∀ c ∈ digits, c.isDigit = true)
    (ends : ∀ c ∈ left.head?, c.isDigit = false) : splitDigits (digits ++ left) = (digits, left) := by
  have none : left.takeWhile Char.isDigit = [] ∧ left.dropWhile Char.isDigit = left := by
    cases left with
    | nil => exact ⟨rfl, rfl⟩
    | cons c rest =>
        have other := ends c rfl
        simp [other]
  rw [splitDigits, List.span_eq_takeWhile_dropWhile, List.takeWhile_append_of_pos all,
    List.dropWhile_append_of_pos all, none.1, none.2, List.append_nil]

theorem readExponent_of_ends {left : List Char} (ends : EndsNumber left) :
    readExponent left = (none, left) := by
  cases left with
  | nil => rfl
  | cons c rest =>
      obtain ⟨-, -, no_e, no_E⟩ := ends c rfl
      simp [readExponent, no_e, no_E]

theorem finishNumber_of_ends (negative : Bool) (whole : List Char) {left : List Char}
    (ends : EndsNumber left) : finishNumber negative whole left = ({ negative, whole }, left) := by
  have fraction : readFraction left = (none, left) := by
    unfold readFraction
    split
    · obtain ⟨-, no_point, -⟩ := ends '.' rfl
      contradiction
    · rfl
  rw [finishNumber, fraction]
  dsimp only
  rw [readExponent_of_ends ends]

theorem digitsValue_toDigits (number : Nat) : digitsValue (Nat.toDigits 10 number) = number := by
  have all : ∀ digit : Fin 10, (Nat.digitChar digit).toNat - '0'.toNat = digit.val := by decide
  exact Text.ofDigits_toDigits (by decide) (fun digit small => all ⟨digit, small⟩) number

theorem isDigit_of_mem_toDigits {number : Nat} :
    ∀ c ∈ Nat.toDigits 10 number, c.isDigit = true :=
  fun _ => Nat.isDigit_of_mem_toDigits (by decide) (by decide)

theorem toList_intText (number : Int) :
    (Number.intText number).toList =
      (if number < 0 then ['-'] else []) ++ Nat.toDigits 10 number.natAbs := by
  rw [Number.intText, String.toList_append, String.toList_ofList]
  split <;> rfl

theorem beginsNumber_intText (number : Int) (left : List Char) :
    BeginsNumber ((Number.intText number).toList ++ left) := by
  rw [toList_intText]
  cases digits_eq : Nat.toDigits 10 number.natAbs with
  | nil => exact absurd digits_eq Nat.toDigits_ne_nil
  | cons c rest =>
      have digit : c.isDigit = true := by
        apply isDigit_of_mem_toDigits
        rw [digits_eq]
        exact List.mem_cons_self
      split
      · exact .minus digit
      · exact .digit digit

/-- The digits of a positive number do not begin with a zero. -/
theorem head_toDigits_ne {number : Nat} (positive : 0 < number) {rest : List Char} :
    Nat.toDigits 10 number ≠ '0' :: rest := by
  have all : ∀ digit : Fin 10, digit.val ≠ 0 → Nat.digitChar digit ≠ '0' := by decide
  induction number using Nat.strongRecOn generalizing rest with
  | ind number ih =>
      by_cases small : number < 10
      · rw [Nat.toDigits_of_lt_base small]
        intro same
        exact all ⟨number, small⟩ (Nat.ne_of_gt positive) (List.cons.inj same).1
      · rw [Nat.toDigits_of_base_le (by decide) (by omega)]
        intro same
        cases front_eq : Nat.toDigits 10 (number / 10) with
        | nil => exact Nat.toDigits_ne_nil front_eq
        | cons c front =>
            rw [front_eq, List.cons_append] at same
            rw [(List.cons.inj same).1] at front_eq
            exact ih (number / 10) (by omega) (by omega) front_eq

/-- The digits of a number are read, behind a minus or not. -/
theorem readWritten_toDigits (number : Nat) {left : List Char} (ends : EndsNumber left)
    (negative : Bool) :
    readWritten ((if negative then ['-'] else []) ++ (Nat.toDigits 10 number ++ left)) =
      .ok ({ negative, whole := Nat.toDigits 10 number }, left) := by
  have split_eq : splitDigits (Nat.toDigits 10 number ++ left) = (Nat.toDigits 10 number, left) :=
    splitDigits_append isDigit_of_mem_toDigits fun c member => (ends c member).1
  rw [← finishNumber_of_ends negative (Nat.toDigits 10 number) ends]
  rcases Nat.eq_zero_or_pos number with rfl | positive
  · cases negative <;> rfl
  · have all := @isDigit_of_mem_toDigits number
    have no_zero (rest : List Char) : Nat.toDigits 10 number ≠ '0' :: rest :=
      head_toDigits_ne positive
    cases digits_eq : Nat.toDigits 10 number with
    | nil => exact absurd digits_eq Nat.toDigits_ne_nil
    | cons c rest =>
        rw [digits_eq] at split_eq all no_zero
        have not_zero : c ≠ '0' := fun same => no_zero rest (by rw [same])
        have not_minus : c ≠ '-' := by
          rintro rfl
          cases all '-' List.mem_cons_self
        rw [List.cons_append] at split_eq ⊢
        cases negative <;> simp [readWritten, not_minus, not_zero, split_eq]

/-- An integer that is not too long is read back. -/
theorem readNumber_intText {number : Int} (short : Number.tooLong number = false)
    {left : List Char} (ends : EndsNumber left) :
    readNumber .values ((Number.intText number).toList ++ left) = .ok (.int number, left) := by
  have fits : (Nat.toDigits 10 number.natAbs).length ≤ Number.maxDigits := by
    rw [Number.tooLong, decide_eq_false_iff_not, Nat.not_le] at short
    have some_allowed : 0 < Number.maxDigits := Nat.zero_lt_succ _
    generalize Number.maxDigits = most at *
    exact (Nat.length_toDigits_le_iff (by decide) some_allowed).2 short
  have text_eq : (Number.intText number).toList =
      (if decide (number < 0) then ['-'] else []) ++ Nat.toDigits 10 number.natAbs := by
    rw [toList_intText]
    simp
  have value_eq : Written.value
      { negative := decide (number < 0), whole := Nat.toDigits 10 number.natAbs } left =
        .ok (.int number) := by
    simp only [Written.value, Option.isNone_none, Bool.and_self, if_true,
      if_neg (Nat.not_lt.2 fits), digitsValue_toDigits, decide_eq_true_eq]
    refine congrArg (fun size => Except.ok (Value.int size)) ?_
    split_ifs with negative
    · rw [Int.ofNat_natAbs_of_nonpos (Int.le_of_lt negative), Int.neg_neg]
    · exact Int.natAbs_of_nonneg (Int.not_lt.1 negative)
  rw [text_eq, List.append_assoc, readNumber, readWritten_toDigits number.natAbs ends,
    Outcome.ok_bind]
  dsimp only
  rw [value_eq]
  rfl

end Json

end Workflow
