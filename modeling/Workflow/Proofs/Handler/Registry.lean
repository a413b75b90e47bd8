import Workflow.Handler.Registry

/-!
# Handlers in a registry

What a registry finds under a kind, and what the handlers that it finds leave alone.
-/

namespace Workflow.Registry

/-- A registry finds what its first entry with the kind holds. -/
theorem find_eq_ok_iff {α : Type} {registry : Registry α} {kind : String} {handler : α} :
    registry.find kind = .ok handler ↔
      ∃ entry, registry.entries.find? (·.1 = kind) = some entry ∧ entry.2 = handler := by
  unfold find
  cases registry.entries.find? (·.1 = kind) <;> simp

theorem find_eq_error {α : Type} {registry : Registry α} {kind : String} {error : StepError}
    (missing : registry.find kind = .error error) : error = .unknownKind kind registry.kinds := by
  unfold find at missing
  split at missing
  · cases missing
  · exact (Except.error.inj missing).symm

/-- The standard registry finds the built-in handler under the name of each kind. -/
theorem standard_find_name (kind : Kind) : standard.find kind.name = .ok kind.handler := by
  cases kind <;> rfl

/-- The standard registry finds nothing but the built-in handlers, each under its name. -/
theorem standard_find_eq_ok_iff {name : String} {handler : Handler} :
    standard.find name = .ok handler ↔ ∃ kind : Kind, kind.name = name ∧ kind.handler = handler := by
  constructor
  · intro found
    obtain ⟨entry, entry_found, rfl⟩ := find_eq_ok_iff.1 found
    obtain ⟨kind, -, rfl⟩ := List.mem_map.1 (List.mem_of_find?_eq_some entry_found)
    exact ⟨kind, by simpa using List.find?_some entry_found, rfl⟩
  · rintro ⟨kind, rfl, rfl⟩
    exact standard_find_name kind

/-- No handler sets fields in the object bound to `input`. -/
def LeavesInput (registry : Registry Handler) : Prop :=
  ∀ kind handler, registry.find kind = .ok handler → ∀ fields environment request world,
    (handler fields environment request world).writes = []

/-- No built-in handler sets fields in the object bound to `input`. -/
theorem standard_leavesInput : standard.LeavesInput := by
  intro kind handler found fields environment request world
  obtain ⟨kind, -, rfl⟩ := standard_find_eq_ok_iff.1 found
  cases kind <;> rfl

end Workflow.Registry
