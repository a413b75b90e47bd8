import Mathlib.Data.List.Induction

/-!
# Lists without repeats

A list without its repeats keeps every item where it first occurs, so an item that is added at the
end counts only when it is new.
-/

namespace Workflow

variable {α : Type} [DecidableEq α]

theorem eraseDups_concat_of_mem {items : List α} {item : α} (known : item ∈ items) :
    (items ++ [item]).eraseDups = items.eraseDups := by
  have gone : [item].removeAll items = [] := by simp [List.removeAll, known]
  rw [List.eraseDups_append, gone, List.eraseDups_nil, List.append_nil]

theorem eraseDups_concat_of_not_mem {items : List α} {item : α} (new : item ∉ items) :
    (items ++ [item]).eraseDups = items.eraseDups ++ [item] := by
  have kept : [item].removeAll items = [item] := by simp [List.removeAll, new]
  rw [List.eraseDups_append, kept]
  rfl

theorem nodup_eraseDups (items : List α) : items.eraseDups.Nodup := by
  induction items using List.reverseRecOn with
  | nil => exact List.nodup_nil
  | append_singleton front item ih =>
      by_cases known : item ∈ front
      · rwa [eraseDups_concat_of_mem known]
      · rw [eraseDups_concat_of_not_mem known, List.nodup_append]
        refine ⟨ih, by simp, ?_⟩
        rintro other member last isLast rfl
        rw [List.mem_singleton.1 isLast] at member
        exact known (List.mem_eraseDups.1 member)

end Workflow
