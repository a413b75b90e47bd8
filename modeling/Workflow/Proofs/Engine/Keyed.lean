import Mathlib.Data.List.Nodup
import Workflow.Engine.Basic

/-!
# Entries under keys

An engine keeps its graphs, publications and runs under keys.  What is put under a key that is not
taken comes last, and what was found before is found afterwards.
-/

namespace Workflow.Engine

variable {α : Type} {key : String} {item : α} {entries : List (String × α)}

theorem putKeyed_of_not_mem (item : α) (fresh : key ∉ entries.map (·.1)) :
    putKeyed key item entries = entries ++ [(key, item)] := by
  induction entries with
  | nil => rfl
  | cons entry rest ih =>
      simp only [List.map_cons, List.mem_cons, not_or] at fresh
      rw [putKeyed, if_neg (Ne.symm fresh.1), ih fresh.2, List.cons_append]

theorem putKeyed_concat (item old : α) (fresh : key ∉ entries.map (·.1)) :
    putKeyed key item (entries ++ [(key, old)]) = entries ++ [(key, item)] := by
  induction entries with
  | nil => simp [putKeyed]
  | cons entry rest ih =>
      simp only [List.map_cons, List.mem_cons, not_or] at fresh
      rw [List.cons_append, putKeyed, if_neg (Ne.symm fresh.1), ih fresh.2, List.cons_append]

theorem mem_of_keyed_eq_some (found : keyed key entries = some item) : (key, item) ∈ entries := by
  rcases Option.map_eq_some_iff.1 found with ⟨⟨known, kept⟩, first, rfl⟩
  obtain rfl : known = key := by simpa using List.find?_some first
  exact List.mem_of_find?_eq_some first

theorem keyed_eq_some_of_mem (nodup : (entries.map (·.1)).Nodup) (member : (key, item) ∈ entries) :
    keyed key entries = some item := by
  unfold keyed
  cases found : entries.find? (·.1 = key) with
  | none =>
      have absent := List.find?_eq_none.1 found _ member
      simp at absent
  | some other =>
      have same : other.1 = key := by simpa using List.find?_some found
      have other_eq : other = (key, item) :=
        List.inj_on_of_nodup_map nodup (List.mem_of_find?_eq_some found) member same
      rw [other_eq, Option.map_some]

/-- What is found under a key is found there when more entries come after it. -/
theorem keyed_append_of_some (found : keyed key entries = some item)
    (more : List (String × α)) : keyed key (entries ++ more) = some item := by
  rcases Option.map_eq_some_iff.1 found with ⟨entry, first, rfl⟩
  rw [keyed, List.find?_append, first, Option.some_or, Option.map_some]

end Workflow.Engine
