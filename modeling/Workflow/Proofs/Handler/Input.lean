import Workflow.Graph.Compile
import Workflow.Handler.Input
import Workflow.Proofs.Handler.Action
import Workflow.Proofs.Outcome
import Workflow.Proofs.Value.Fields

/-!
# Collecting and validating input

The input step extends the object bound to `input`: it gives defaults to fields that are absent and
leaves all others as they are.  The validation step finishes only when no rule has a problem.
-/

namespace Workflow

namespace Object

/-- An object has all fields of another, with their values. -/
def Extends (object more : Object) : Prop :=
  ∀ name value, get? object name = some value → get? more name = some value

theorem Extends.refl (object : Object) : object.Extends object := by
  intro name value present
  exact present

theorem Extends.trans {first second third : Object} (front : first.Extends second)
    (back : second.Extends third) : first.Extends third := by
  intro name value present
  exact back name value (front name value present)

/-- An object is extended when a field is given a default. -/
theorem extends_setDefault (object : Object) (name : Name) (value : Value) :
    object.Extends (setDefault object name value) := by
  intro wanted kept present
  rw [get?_setDefault]
  split
  · rename_i same
    rw [get?_congr object same, present]
    rfl
  · exact present

end Object

namespace Node

/-- The default that an entry of an input node's variables gives. -/
def declaredDefault : Value → Value
  | .obj declaration => Value.field declaration "default"
  | _ => .null

end Node

namespace Handler

open Object (contains identities setDefault)

/-! ## Defaults -/

/-- The name that an entry of an input step's variables declares, with its default. -/
def declaration? (entry : Value) : Option (String × Value) :=
  (Node.declaredName? entry).map fun name => (name, Node.declaredDefault entry)

/-- An entry that declares a name gives it a default, and any other entry does nothing. -/
theorem fillIn_eq (current : Object) (entry : Value) :
    fillIn current entry =
      match declaration? entry with
      | some declared => setDefault current declared.1 declared.2
      | none => current := by
  cases entry with
  | obj fields =>
      cases word_eq : Value.field fields "name" with
      | str word =>
          simp only [fillIn, declaration?, Node.declaredName?, Node.declaredDefault, word_eq]
          by_cases given : Text.strip word = ""
          · simp [given]
          · by_cases present : contains current (Text.strip word) = true
            · simp [given, present, Object.setDefault_of_contains]
            · simp [given, present, Object.setDefault_of_not_contains]
      | _ => simp [fillIn, declaration?, Node.declaredName?, word_eq]
  | _ => simp [fillIn, declaration?, Node.declaredName?]

/-- Filling in a variable extends the object and keeps its names single. -/
theorem extends_fillIn {current : Object} (single : (identities current).Nodup)
    (declaration : Value) :
    current.Extends (fillIn current declaration) ∧
      (identities (fillIn current declaration)).Nodup := by
  rw [fillIn_eq]
  cases declaration? declaration with
  | none => exact ⟨.refl current, single⟩
  | some declared =>
      exact ⟨Object.extends_setDefault current _ _, Object.nodup_identities_setDefault single _ _⟩

/-- Filling in declared variables extends the input and keeps its names single. -/
theorem extends_withDefaults {input : Object} (single : (identities input).Nodup)
    (declarations : Value) :
    input.Extends (withDefaults input declarations) ∧
      (identities (withDefaults input declarations)).Nodup := by
  unfold withDefaults
  split
  · rename_i items
    induction items generalizing input with
    | nil => exact ⟨.refl input, single⟩
    | cons declaration rest ih =>
        obtain ⟨begun, kept⟩ := extends_fillIn single declaration
        obtain ⟨extended, kept⟩ := ih kept
        exact ⟨begun.trans extended, kept⟩
  · exact ⟨.refl input, single⟩

variable {fields environment : Object} {request : Request} {world : World}

/-- The input step replies the object bound to `input` with the declared variables filled in. -/
theorem collectInput_eq {input : Object} (bound : Value.field environment "input" = .obj input)
    (single : (identities input).Nodup) :
    collectInput fields environment request world =
      { result := .ok (.obj (withDefaults input (Value.field fields "variables"))), world } := by
  apply reply_of_ends
  rw [bound]
  exact .ofFault_ok (Pairs.toObject_obj single) (.pure ⟨rfl, rfl⟩)

/-! ## Rules -/

/-- The value that a required rule without a problem is about is there. -/
theorem isMissing_of_ruleProblem? {rule : Object} {field : String}
    (passed : ruleProblem? environment rule field = none)
    (required : (Value.field rule "required").isTruthy = true) :
    isMissing (Path.lookup environment (fieldPath field)) = false := by
  cases missing : isMissing (Path.lookup environment (fieldPath field)) with
  | false => rfl
  | true =>
      simp only [ruleProblem?, required, missing, Bool.and_self, if_true] at passed
      cases passed

theorem addProblem_ne_nil (field message : String) (problems : List (String × List String)) :
    addProblem field message problems ≠ [] := by
  cases problems with
  | nil => nofun
  | cons problem rest =>
      rw [addProblem]
      split <;> nofun

/-- Where no problem is found, none was found before and the rule has none. -/
theorem of_checkRule_eq_nil {found : List (String × List String)} {rule : Value}
    (checked : checkRule environment found rule = .ok []) :
    found = [] ∧ ∀ fields, rule = .obj fields → ∀ field,
      (Value.field fields "field").orElse (.str "") = .str field →
        ruleProblem? environment fields field = none := by
  unfold checkRule at checked
  split at checked
  · rename_i fields
    split at checked
    · rename_i field field_eq
      split at checked
      · rename_i message problem
        exact absurd (Except.ok.inj checked) (addProblem_ne_nil field message found)
      · rename_i none
        refine ⟨Except.ok.inj checked, ?_⟩
        rintro _ ⟨⟩ other other_eq
        rw [field_eq] at other_eq
        rwa [← Value.str.inj other_eq]
    · cases checked
  · cases checked

/-- Where the rules find no problem, none of them has one. -/
theorem of_foldlM_checkRule_eq_nil {rules : List Value} {found : List (String × List String)}
    (checked : rules.foldlM (checkRule environment) found = .ok []) :
    ∀ rule ∈ rules, checkRule environment [] rule = .ok [] := by
  suffices found = [] ∧ ∀ rule ∈ rules, checkRule environment [] rule = .ok [] from this.2
  induction rules generalizing found with
  | nil => exact ⟨Except.ok.inj checked, nofun⟩
  | cons rule rest ih =>
      rw [List.foldlM_cons] at checked
      obtain ⟨next, here, later⟩ := Outcome.bind_eq_ok_iff.1 checked
      obtain ⟨rfl, others⟩ := ih later
      obtain ⟨rfl, -⟩ := of_checkRule_eq_nil here
      refine ⟨rfl, ?_⟩
      intro other member
      rcases List.mem_cons.1 member with rfl | tail
      · exact here
      · exact others other tail

/-- The validation step fails with the problems that it finds, if there are any. -/
theorem validateInput_eq :
    validateInput fields environment request world =
      { result :=
          match problems environment (Value.field fields "rules") with
          | .ok found =>
            if found.isEmpty then .ok (.bool true) else .error (.step (.validation found))
          | .error cause => .error (.fault cause)
        world } := by
  apply reply_of_ends
  apply Action.Ends.ofFault_bind
  · intro found found_eq
    rw [found_eq]
    dsimp only
    split
    · exact .pure ⟨rfl, rfl⟩
    · exact .fail ⟨rfl, rfl⟩
  · intro cause failed
    rw [failed]
    exact ⟨rfl, rfl⟩

/-- A validation step that finishes has found no problem. -/
theorem problems_of_validateInput {value : Value}
    (finished : (validateInput fields environment request world).result = .ok value) :
    problems environment (Value.field fields "rules") = .ok [] := by
  rw [validateInput_eq] at finished
  cases found_eq : problems environment (Value.field fields "rules") with
  | error cause =>
      simp only [found_eq] at finished
      cases finished
  | ok found =>
      cases found with
      | nil => rfl
      | cons problem rest =>
          simp only [found_eq] at finished
          cases finished

/-- When a validation step finishes, the value that a required rule is about is there. -/
theorem isMissing_of_validateInput {value : Value} {rules : List Value} {rule : Object}
    {field : String}
    (finished : (validateInput fields environment request world).result = .ok value)
    (rules_eq : Value.field fields "rules" = .arr rules) (member : .obj rule ∈ rules)
    (required : (Value.field rule "required").isTruthy = true)
    (field_eq : (Value.field rule "field").orElse (.str "") = .str field) :
    isMissing (Path.lookup environment (fieldPath field)) = false := by
  have listed : rulesOf (.arr rules) = .ok rules := by
    cases rules <;> rfl
  have checked := problems_of_validateInput finished
  rw [problems, rules_eq, listed, Outcome.ok_bind] at checked
  have passed := of_foldlM_checkRule_eq_nil checked _ member
  exact isMissing_of_ruleProblem? ((of_checkRule_eq_nil passed).2 rule rfl field field_eq) required

end Handler

end Workflow
