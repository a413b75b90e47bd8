import Workflow.Json.Reader
import Workflow.Proofs.Outcome
import Workflow.Proofs.Value.Fields
import Workflow.Proofs.Value.Nesting

/-!
# What holds of values that are read

A reader makes scalars, arrays of values that it has read, and objects in which it sets one such value
after the other.  What holds of these holds of every value that it reads, at the depth at which it is
read; so no value is nested deeper than a reader goes.
-/

namespace Workflow

open Outcome (bind_eq_ok_iff pure_eq_ok_iff)

namespace Json

/-- What holds, at a depth, of all that a reader makes. -/
structure IsReadRule (numbers : Numbers) (holds : Nat → Value → Prop) : Prop where
  null {depth : Nat} : holds depth .null
  bool {depth : Nat} (flag : Bool) : holds depth (.bool flag)
  str {depth : Nat} (text : String) : holds depth (.str text)
  float {depth : Nat} (number : Number.Double) : holds depth (.float number)
  number {depth : Nat} {chars left : List Char} {value : Value}
    (done : readNumber numbers chars = .ok (value, left)) : holds depth value
  arr {depth : Nat} {items : List Value} (each : ∀ item ∈ items, holds depth item) :
    holds (depth + 1) (.arr items)
  empty {depth : Nat} : holds (depth + 1) (.obj [])
  set {depth : Nat} {fields : Object} {value : Value} (before : holds (depth + 1) (.obj fields))
    (valued : holds depth value) (name : String) :
    holds (depth + 1) (.obj (Object.set fields name value))

section

variable {numbers : Numbers} {holds : Nat → Value → Prop} (rule : IsReadRule numbers holds)
include rule

mutual

theorem holds_readValue : ∀ {depth fuel : Nat} {chars left : List Char} {value : Value},
    readValue numbers depth fuel chars = .ok (value, left) → holds depth value
  | depth, 0, chars, left, value, done => by cases done
  | depth, fuel + 1, chars, left, value, done => by
      have made {found : Value} {rest : List Char} (here : holds depth found)
          (same : (Except.ok (found, rest) : Except Failure _) = .ok (value, left)) :
          holds depth value := by
        rw [← (Prod.mk.inj (Except.ok.inj same)).1]
        exact here
      rw [readValue.eq_def] at done
      dsimp only at done
      split at done
      · rename_i rest
        cases read : readString rest with
        | error failure => rw [read] at done; cases done
        | ok found => rw [read] at done; exact made (rule.str _) done
      · split at done
        · cases done
        · rename_i positive
          obtain ⟨depth, rfl⟩ := Nat.exists_eq_add_one_of_ne_zero positive
          split at done
          · exact made rule.empty done
          · exact holds_readMembers rule.empty done
      · split at done
        · cases done
        · rename_i positive
          obtain ⟨depth, rfl⟩ := Nat.exists_eq_add_one_of_ne_zero positive
          split at done
          · exact made (rule.arr (List.forall_mem_nil _)) done
          · exact holds_readItems (List.forall_mem_nil _) done
      · exact made rule.null done
      · exact made (rule.bool _) done
      · exact made (rule.bool _) done
      · exact made (rule.float _) done
      · exact made (rule.float _) done
      · exact made (rule.float _) done
      · exact rule.number done

theorem holds_readMembers : ∀ {depth fuel : Nat} {fields : Object} {chars left : List Char}
    {value : Value}, holds (depth + 1) (.obj fields) →
      readMembers numbers depth fuel fields chars = .ok (value, left) → holds (depth + 1) value
  | depth, 0, fields, chars, left, value, before, done => by cases done
  | depth, fuel + 1, fields, chars, left, value, before, done => by
      rw [readMembers.eq_def] at done
      dsimp only at done
      split at done
      · cases done
      · obtain ⟨⟨name, afterName⟩, -, done⟩ := bind_eq_ok_iff.1 done
        dsimp only at done
        split at done
        · obtain ⟨⟨found, afterValue⟩, read, done⟩ := bind_eq_ok_iff.1 done
          have extended := rule.set before (holds_readValue read) name
          dsimp only at done
          split at done
          · rw [← (Prod.mk.inj (pure_eq_ok_iff.1 done)).1]
            exact extended
          · exact holds_readMembers extended done
          · cases done
        · cases done
      · cases done

theorem holds_readItems : ∀ {depth fuel : Nat} {items : List Value} {chars left : List Char}
    {value : Value}, (∀ item ∈ items, holds depth item) →
      readItems numbers depth fuel items chars = .ok (value, left) → holds (depth + 1) value
  | depth, 0, items, chars, left, value, each, done => by cases done
  | depth, fuel + 1, items, chars, left, value, each, done => by
      rw [readItems] at done
      obtain ⟨⟨item, rest⟩, read, done⟩ := bind_eq_ok_iff.1 done
      have more := List.forall_mem_cons.2 ⟨holds_readValue read, each⟩
      dsimp only at done
      split at done
      · rw [← (Prod.mk.inj (pure_eq_ok_iff.1 done)).1]
        exact rule.arr fun other member => more other (List.mem_reverse.1 member)
      · exact holds_readItems more done
      · cases done

end

/-- What holds of all that a reader makes holds of the value of a whole text. -/
theorem holds_read {text : String} {depth : Nat} {value : Value}
    (done : readWith numbers text depth = .ok value) : holds depth value := by
  rw [readWith, Outcome.mapError_eq_ok_iff, readChars] at done
  split at done
  · cases done
  · obtain ⟨⟨found, left⟩, valued, done⟩ := bind_eq_ok_iff.1 done
    dsimp only at done
    split at done
    · rw [← pure_eq_ok_iff.1 done]
      exact holds_readValue rule valued
    · cases done

end

/-! ## Nesting -/

theorem nesting_value {number : Written} {left : List Char} {value : Value}
    (done : number.value left = .ok value) : value.nesting = 0 := by
  unfold Written.value at done
  split at done
  · split at done
    · cases done
    · rw [← Except.ok.inj done]
      rfl
  · rw [← Except.ok.inj done]
    rfl

/-- A number is a scalar. -/
theorem nesting_readNumber {numbers : Numbers} {chars left : List Char} {value : Value}
    (done : readNumber numbers chars = .ok (value, left)) : value.nesting = 0 := by
  rw [readNumber] at done
  obtain ⟨⟨number, rest⟩, -, done⟩ := bind_eq_ok_iff.1 done
  cases numbers with
  | values =>
      obtain ⟨found, valued, done⟩ := bind_eq_ok_iff.1 done
      obtain ⟨rfl, rfl⟩ := Prod.mk.inj (pure_eq_ok_iff.1 done)
      exact nesting_value valued
  | texts =>
      obtain ⟨rfl, rfl⟩ := Prod.mk.inj (pure_eq_ok_iff.1 done)
      rfl

/-- What is read at a depth is nested no deeper. -/
theorem isReadRule_nesting (numbers : Numbers) :
    IsReadRule numbers fun depth value => value.nesting ≤ depth where
  null := Nat.zero_le _
  bool _ := Nat.zero_le _
  str _ := Nat.zero_le _
  float _ := Nat.zero_le _
  number done := by
    rw [nesting_readNumber done]
    exact Nat.zero_le _
  arr each := by
    rw [Value.nesting, Nat.add_comm]
    exact Nat.succ_le_succ (Value.itemsNesting_le_iff.2 each)
  empty := Nat.succ_le_succ (Nat.zero_le _)
  set {depth fields value} before valued name := by
    have bound := Value.fieldsNesting_set_le fields name value
    rw [Value.nesting] at before ⊢
    omega

/-- No value of a JSON text is nested deeper than is read. -/
theorem nesting_le_of_read {text : String} {depth : Nat} {value : Value}
    (done : read text depth = .ok value) : value.nesting ≤ depth :=
  holds_read (isReadRule_nesting .values) done

end Json

end Workflow
