import Workflow.Handler.Access
import Workflow.Handler.Input
import Workflow.Handler.Mailing

/-!
# The registry of handlers

A registry knows a handler for each kind of step, in order of registration.  The standard registry
has the built-in ones.
-/

namespace Workflow

/-- Handlers by the name of their kind. -/
structure Registry (α : Type) where
  entries : List (String × α) := []

namespace Registry

variable {α β : Type}

/-- The names of the registered kinds. -/
def kinds (registry : Registry α) : List String := registry.entries.map (·.1)

/-- Replace the entry with a name, or append a new one. -/
def setEntry (kind : String) (handler : α) : List (String × α) → List (String × α)
  | [] => [(kind, handler)]
  | (known, old) :: rest =>
    if known = kind then (known, handler) :: rest
    else (known, old) :: setEntry kind handler rest

/-- The entry that was set is found under its kind, and every other entry as before. -/
theorem find?_setEntry (kind : String) (handler : α) (entries : List (String × α))
    (wanted : String) :
    (setEntry kind handler entries).find? (·.1 = wanted) =
      if kind = wanted then some (kind, handler) else entries.find? (·.1 = wanted) := by
  induction entries with
  | nil => by_cases same : kind = wanted <;> simp [setEntry, same]
  | cons entry rest ih =>
    obtain ⟨known, old⟩ := entry
    by_cases here : known = kind
    · subst here
      by_cases same : known = wanted <;> simp [setEntry, same]
    · by_cases found : known = wanted
      · subst found
        simp [setEntry, here, Ne.symm here]
      · simp [setEntry, here, found, ih]

/-- Register a handler; one for a known kind takes the place of the old one. -/
def register (registry : Registry α) (kind : String) (handler : α) : Registry α :=
  ⟨setEntry kind handler registry.entries⟩

/-- The handler for a kind. -/
def find (registry : Registry α) (kind : String) : Except StepError α :=
  match registry.entries.find? (·.1 = kind) with
  | some entry => .ok entry.2
  | none => .error (.unknownKind kind registry.kinds)

/-- Change every handler. -/
def map (change : α → β) (registry : Registry α) : Registry β :=
  ⟨registry.entries.map fun entry => (entry.1, change entry.2)⟩

end Registry

/-- The built-in handler for a kind. -/
def Kind.handler : Kind → Handler
  | .input => Handler.collectInput
  | .validation => Handler.validateInput
  | .find => Handler.findDocuments
  | .insert => Handler.insertDocument
  | .update => Handler.updateDocuments
  | .delete => Handler.deleteDocuments
  | .auth => Handler.authenticate
  | .email => Handler.sendMail
  | .login => Handler.logIn

/-- The registry of all built-in handlers. -/
def Registry.standard : Registry Handler := ⟨Kind.all.map fun kind => (kind.name, kind.handler)⟩

end Workflow
