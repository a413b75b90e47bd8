import Mathlib.Data.List.Induction
import Mathlib.Data.List.TakeDrop
import Workflow.Proofs.Value.Read
import Workflow.Value.Text

/-!
# Values that have a text

Only an integer with too many digits has no text, wherever in a value it stands.  A JSON text may not
hold one either, so whatever is read from one can be written as text.
-/

namespace Workflow

open Outcome (bind_eq_ok_iff pure_eq_ok_iff)

-- Powers are those of the core library, whatever else is imported.
attribute [local instance(high)] instPowNat

/-- A name can be quoted. -/
def Name.IsQuotable (name : Name) : Prop := ∃ text, Value.quotedName name = .ok text

namespace Value

/-- A value can be quoted. -/
def IsQuotable (value : Value) : Prop := ∃ text, value.quoted = .ok text

theorem text_int (number : Int) : (int number).text = integerText number := by
  simp only [text, quoted]

theorem isQuotable_int {number : Int} : (int number).IsQuotable ↔ Number.tooLong number = false := by
  rw [IsQuotable, quoted, integerText]
  cases Number.tooLong number <;> simp

theorem exists_quotedItems_iff {items : List Value} :
    (∃ texts, quotedItems items = .ok texts) ↔ ∀ item ∈ items, item.IsQuotable := by
  induction items with
  | nil => simp [quotedItems]
  | cons item rest ih =>
      rw [List.forall_mem_cons, ← ih, quotedItems]
      simp only [bind_eq_ok_iff, pure_eq_ok_iff]
      constructor
      · rintro ⟨_, first, here, others, later, -⟩
        exact ⟨⟨first, here⟩, others, later⟩
      · rintro ⟨⟨first, here⟩, others, later⟩
        exact ⟨_, first, here, others, later, rfl⟩

theorem exists_quotedFields_iff {fields : List (Name × Value)} :
    (∃ texts, quotedFields fields = .ok texts) ↔
      ∀ field ∈ fields, field.1.IsQuotable ∧ field.2.IsQuotable := by
  induction fields with
  | nil => simp [quotedFields]
  | cons field rest ih =>
      rw [List.forall_mem_cons, ← ih, quotedFields]
      simp only [bind_eq_ok_iff, pure_eq_ok_iff]
      constructor
      · rintro ⟨_, name, named, first, here, others, later, -⟩
        exact ⟨⟨⟨name, named⟩, first, here⟩, others, later⟩
      · rintro ⟨⟨⟨name, named⟩, first, here⟩, others, later⟩
        exact ⟨_, name, named, first, here, others, later, rfl⟩

theorem isQuotable_arr {items : List Value} :
    (arr items).IsQuotable ↔ ∀ item ∈ items, item.IsQuotable := by
  rw [← exists_quotedItems_iff, IsQuotable, quoted]
  simp only [bind_eq_ok_iff, pure_eq_ok_iff]
  exact ⟨fun ⟨_, texts, quoted, _⟩ => ⟨texts, quoted⟩, fun ⟨texts, quoted⟩ => ⟨_, texts, quoted, rfl⟩⟩

theorem isQuotable_obj {fields : Object} :
    (obj fields).IsQuotable ↔ ∀ field ∈ fields, field.1.IsQuotable ∧ field.2.IsQuotable := by
  rw [← exists_quotedFields_iff, IsQuotable, quoted]
  simp only [bind_eq_ok_iff, pure_eq_ok_iff]
  exact ⟨fun ⟨_, texts, quoted, _⟩ => ⟨texts, quoted⟩, fun ⟨texts, quoted⟩ => ⟨_, texts, quoted, rfl⟩⟩

/-- A value that can be quoted has a text. -/
theorem IsQuotable.exists_text {value : Value} (quotable : value.IsQuotable) :
    ∃ text, value.text = .ok text := by
  cases value with
  | str text => exact ⟨text, rfl⟩
  | _ => exact quotable

end Value

namespace Object

theorem isQuotable_set {fields : Object} {name : Name} {value : Value}
    (quotable : (Value.obj fields).IsQuotable) (named : name.IsQuotable)
    (valued : value.IsQuotable) : (Value.obj (set fields name value)).IsQuotable := by
  rw [Value.isQuotable_obj] at quotable ⊢
  induction fields with
  | nil => simpa [set] using ⟨named, valued⟩
  | cons field rest ih =>
      obtain ⟨here, later⟩ := List.forall_mem_cons.1 quotable
      rw [set]
      split
      · exact List.forall_mem_cons.2 ⟨⟨here.1, valued⟩, later⟩
      · exact List.forall_mem_cons.2 ⟨here, ih later⟩

end Object

/-! ## Numbers -/

/-- Digits of a base stand for a number below a power of the base. -/
theorem Text.ofDigits_lt {base : Nat} {digits : List Nat} (small : ∀ digit ∈ digits, digit < base) :
    ofDigits base digits < base ^ digits.length := by
  induction digits using List.reverseRecOn with
  | nil => simp [ofDigits]
  | append_singleton front last ih =>
      obtain ⟨front_small, last_small⟩ := List.forall_mem_append.1 small
      have front_lt := ih front_small
      have last_lt := last_small last List.mem_cons_self
      rw [ofDigits, List.foldl_append, List.foldl_cons, List.foldl_nil, List.length_append,
        List.length_singleton, Nat.pow_succ]
      change ofDigits base front * base + last < base ^ front.length * base
      calc ofDigits base front * base + last
          < ofDigits base front * base + base := Nat.add_lt_add_left last_lt _
        _ = (ofDigits base front + 1) * base := (Nat.succ_mul _ _).symm
        _ ≤ base ^ front.length * base := Nat.mul_le_mul_right _ front_lt

namespace Json

theorem digitsValue_lt {digits : List Char} (all : ∀ c ∈ digits, c.isDigit = true) :
    digitsValue digits < 10 ^ digits.length := by
  have small : ∀ digit ∈ digits.map (fun c => c.toNat - '0'.toNat), digit < 10 := by
    intro digit member
    obtain ⟨c, among, rfl⟩ := List.mem_map.1 member
    have digit := all c among
    simp only [Char.isDigit, Bool.and_eq_true, decide_eq_true_eq] at digit
    have bound : c.toNat ≤ 57 := digit.2
    have zero : '0'.toNat = 48 := rfl
    omega
  have bound := Text.ofDigits_lt small
  rwa [List.length_map] at bound

/-- The whole part of a number that was read consists of digits. -/
theorem isDigit_of_readWritten {chars left : List Char} {number : Written}
    (done : readWritten chars = .ok (number, left)) : ∀ c ∈ number.whole, c.isDigit = true := by
  unfold readWritten at done
  dsimp only at done
  split at done
  · obtain ⟨rfl, rfl⟩ := Prod.mk.inj (Except.ok.inj done)
    simp
  · split at done
    · cases done
    · rename_i whole rest _ split_eq
      obtain ⟨rfl, rfl⟩ := Prod.mk.inj (Except.ok.inj done)
      have whole_eq : whole = List.takeWhile Char.isDigit _ :=
        (congrArg Prod.fst (split_eq.symm.trans (List.span_eq_takeWhile_dropWhile _ _)) :)
      intro c member
      change c ∈ whole at member
      rw [whole_eq] at member
      exact List.all_eq_true.1 List.all_takeWhile c member

theorem isQuotable_value {number : Written} {left : List Char} {value : Value}
    (digits : ∀ c ∈ number.whole, c.isDigit = true) (done : number.value left = .ok value) :
    value.IsQuotable := by
  unfold Written.value at done
  split at done
  · split at done
    · cases done
    · rename_i short
      rw [← Except.ok.inj done, Value.isQuotable_int, Number.tooLong, decide_eq_false_iff_not,
        Nat.not_le]
      have size_eq : (if number.negative then -(digitsValue number.whole : Int)
          else digitsValue number.whole).natAbs = digitsValue number.whole := by
        split <;> simp
      rw [size_eq]
      exact Nat.lt_of_lt_of_le (digitsValue_lt digits)
        (Nat.pow_le_pow_right (by decide) (Nat.not_lt.1 short))
  · rw [← Except.ok.inj done]
    exact ⟨_, rfl⟩

theorem isQuotable_readNumber {numbers : Numbers} {chars left : List Char} {value : Value}
    (done : readNumber numbers chars = .ok (value, left)) : value.IsQuotable := by
  rw [readNumber] at done
  obtain ⟨⟨number, rest⟩, written, done⟩ := bind_eq_ok_iff.1 done
  cases numbers with
  | values =>
      obtain ⟨found, valued, done⟩ := bind_eq_ok_iff.1 done
      obtain ⟨rfl, rfl⟩ := Prod.mk.inj (pure_eq_ok_iff.1 done)
      exact isQuotable_value (isDigit_of_readWritten written) valued
  | texts =>
      obtain ⟨rfl, rfl⟩ := Prod.mk.inj (pure_eq_ok_iff.1 done)
      exact ⟨_, rfl⟩

/-! ## Whole texts -/

/-- All that a reader makes can be quoted. -/
theorem isReadRule_isQuotable (numbers : Numbers) :
    IsReadRule numbers fun _ value => value.IsQuotable where
  null := ⟨_, rfl⟩
  bool _ := ⟨_, rfl⟩
  str _ := ⟨_, rfl⟩
  float _ := ⟨_, rfl⟩
  number := isQuotable_readNumber
  arr := Value.isQuotable_arr.2
  empty := Value.isQuotable_obj.2 (List.forall_mem_nil _)
  set before valued _ := Object.isQuotable_set before ⟨_, rfl⟩ valued

/-- Whatever is read from a JSON text can be quoted. -/
theorem isQuotable_read {text : String} {depth : Nat} {value : Value}
    (done : read text depth = .ok value) : value.IsQuotable :=
  holds_read (isReadRule_isQuotable .values) done

end Json

end Workflow
