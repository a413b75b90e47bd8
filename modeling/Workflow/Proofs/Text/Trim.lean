import Mathlib.Data.List.DropRight
import Workflow.Text.Blank

/-!
# Trimmed texts

Trimming leaves exactly those texts alone that neither begin nor end with a character to be removed,
and it yields such a text.
-/

namespace Workflow.Text

variable {drop : Char → Bool}

theorem trimChars_eq_rdropWhile (drop : Char → Bool) (chars : List Char) :
    trimChars drop chars = (chars.dropWhile drop).rdropWhile drop :=
  rfl

/-- Neither the first nor the last character is to be removed. -/
def IsTrimmed (drop : Char → Bool) (chars : List Char) : Prop :=
  (∀ c ∈ chars.head?, drop c = false) ∧ ∀ c ∈ chars.getLast?, drop c = false

theorem isTrimmed_trimChars (drop : Char → Bool) (chars : List Char) :
    IsTrimmed drop (trimChars drop chars) := by
  rw [trimChars_eq_rdropWhile]
  constructor
  · intro c isHead
    have prefix_head : c ∈ (chars.dropWhile drop).head? := by
      obtain ⟨rest, whole⟩ := List.rdropWhile_prefix drop (chars.dropWhile drop)
      rw [← whole, List.head?_append, isHead]
      rfl
    have := List.head?_dropWhile_not drop chars
    rw [prefix_head] at this
    simpa using this
  · intro c isLast
    obtain ⟨nonempty, rfl⟩ := List.mem_getLast?_eq_getLast isLast
    simpa using List.rdropWhile_last_not drop (chars.dropWhile drop) nonempty

theorem IsTrimmed.trimChars_eq {chars : List Char} (trimmed : IsTrimmed drop chars) :
    trimChars drop chars = chars := by
  have front : chars.dropWhile drop = chars := by
    cases chars with
    | nil => rfl
    | cons c rest => simpa using trimmed.1 c rfl
  rw [trimChars_eq_rdropWhile, front, List.rdropWhile_eq_self_iff]
  intro nonempty
  simpa using trimmed.2 _ (List.getLast?_eq_some_getLast nonempty)

/-- Putting a text in front of another one that is not empty keeps it trimmed when the text in front
does not begin with a character to be removed. -/
theorem IsTrimmed.append {front chars : List Char} (begins : ∀ c ∈ front.head?, drop c = false)
    (trimmed : IsTrimmed drop chars) (nonempty : chars ≠ []) : IsTrimmed drop (front ++ chars) := by
  constructor
  · intro c isHead
    cases front with
    | nil => exact trimmed.1 c isHead
    | cons d rest => exact begins c (by simpa using isHead)
  · intro c isLast
    rw [List.getLast?_append_of_ne_nil front nonempty] at isLast
    exact trimmed.2 c isLast

/-- What is to be removed around a text does not matter to what trimming leaves of it. -/
theorem trimChars_append {front back : List Char} (before : ∀ c ∈ front, drop c = true)
    (after : ∀ c ∈ back, drop c = true) (chars : List Char) :
    trimChars drop (front ++ (chars ++ back)) = trimChars drop chars := by
  rw [trimChars_eq_rdropWhile, trimChars_eq_rdropWhile, List.dropWhile_append_of_pos before,
    List.dropWhile_append]
  split
  · rename_i nothing
    rw [List.dropWhile_eq_nil_iff.2 after, List.isEmpty_iff.1 nothing]
  · rw [List.rdropWhile, List.reverse_append,
      List.dropWhile_append_of_pos (by simpa using after), List.rdropWhile]

theorem mem_of_mem_trimChars {chars : List Char} {c : Char} (member : c ∈ trimChars drop chars) :
    c ∈ chars :=
  (List.dropWhile_sublist drop).subset ((List.rdropWhile_prefix drop _).subset member)

theorem mem_dropWhile_of_mem {chars : List Char} {c : Char} (member : c ∈ chars)
    (kept : drop c = false) : c ∈ chars.dropWhile drop := by
  rw [← List.takeWhile_append_dropWhile (p := drop) (l := chars)] at member
  rcases List.mem_append.1 member with front | rest
  · rw [List.mem_takeWhile_imp front] at kept
    cases kept
  · exact rest

/-- Trimming removes no other characters. -/
theorem mem_trimChars_of_mem {chars : List Char} {c : Char} (member : c ∈ chars)
    (kept : drop c = false) : c ∈ trimChars drop chars := by
  have reversed : c ∈ (chars.dropWhile drop).reverse :=
    List.mem_reverse.2 (mem_dropWhile_of_mem member kept)
  exact List.mem_reverse.2 (mem_dropWhile_of_mem reversed kept)

end Workflow.Text
