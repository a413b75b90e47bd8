import Workflow.Handler.Registry
import Workflow.Proofs.Outcome
import Workflow.Proofs.Template.Plan

/-!
# What handlers read of the environment

A built-in handler looks into the environment at the paths that stand in the fields of its step and
nowhere else.  Which these are depends on the fields and on the names that are bound, and not on any
value.
-/

namespace Workflow

open Template (plan resolve resolveMapping resolve_congr)

namespace Handler

/-- The path that a rule is about. -/
def rulePath? : Value → Option String
  | .obj rule =>
    match (Value.field rule "field").orElse (.str "") with
    | .str field => some (fieldPath field)
    | _ => none
  | _ => none

/-- The paths that the rules of a validation are about. -/
def rulePaths (fields : Object) : List String :=
  match rulesOf (Value.field fields "rules") with
  | .ok rules => rules.filterMap rulePath?
  | .error _ => []

/-- The paths at which a field that holds a mapping is resolved. -/
def mappingPaths (names : List Name.Identity) (value : Value) : List String :=
  (plan names (value.orElse (.obj []))).paths

end Handler

open Handler (fieldOr mappingPaths rulePath? rulePaths)

/-- The paths at which a step of a kind looks into an environment with the given names. -/
def Kind.reads (names : List Name.Identity) (fields : Object) : Kind → List String
  | .input => ["input"]
  | .validation => rulePaths fields
  | .find => mappingPaths names (Value.field fields "filters")
  | .insert => mappingPaths names (Value.field fields "data")
  | .update =>
    mappingPaths names (fieldOr fields "filters" "filter") ++
      mappingPaths names (fieldOr fields "update" "data")
  | .delete => mappingPaths names (fieldOr fields "filters" "filter")
  | .auth => []
  | .email =>
    (plan names (Value.field fields "to")).paths ++
      (plan names (Value.field fields "subject")).paths ++
      (plan names (Value.field fields "body")).paths
  | .login =>
    (plan names (Value.field fields "email")).paths ++
      (plan names (Value.field fields "password")).paths

namespace Handler

variable {fields environment other : Object}

/-- Two environments have the same values at paths. -/
def AgreeAt (environment other : Object) (paths : List String) : Prop :=
  ∀ path ∈ paths, Path.lookup environment path = Path.lookup other path

theorem AgreeAt.left {first second : List String}
    (agree : AgreeAt environment other (first ++ second)) : AgreeAt environment other first := by
  intro path member
  exact agree path (List.mem_append_left second member)

theorem AgreeAt.right {first second : List String}
    (agree : AgreeAt environment other (first ++ second)) : AgreeAt environment other second := by
  intro path member
  exact agree path (List.mem_append_right first member)

theorem resolveMapping_congr (names_eq : Object.identities environment = Object.identities other)
    {value : Value}
    (agree : AgreeAt environment other (mappingPaths (Object.identities environment) value)) :
    resolveMapping environment value = resolveMapping other value :=
  resolve_congr names_eq agree

theorem ruleProblem?_congr {rule : Object} {field : String}
    (agree : Path.lookup environment (fieldPath field) = Path.lookup other (fieldPath field)) :
    ruleProblem? environment rule field = ruleProblem? other rule field := by
  rw [ruleProblem?, ruleProblem?, agree]

theorem checkRule_congr {rule : Value}
    (agree : ∀ path, rulePath? rule = some path →
      Path.lookup environment path = Path.lookup other path)
    (found : List (String × List String)) :
    checkRule environment found rule = checkRule other found rule := by
  cases rule with
  | obj rule =>
      rw [checkRule, checkRule]
      cases field_eq : (Value.field rule "field").orElse (.str "") with
      | str field =>
          have same := agree (fieldPath field) (by simp only [rulePath?, field_eq])
          simp only [ruleProblem?_congr same]
      | _ => simp only
  | _ => simp only [checkRule]

/-- Rules find the same problems where the environments agree at the paths that they are about. -/
theorem foldlM_checkRule_congr {rules : List Value}
    (agree : AgreeAt environment other (rules.filterMap rulePath?))
    (found : List (String × List String)) :
    rules.foldlM (checkRule environment) found = rules.foldlM (checkRule other) found := by
  induction rules generalizing found with
  | nil => simp only [List.foldlM_nil]
  | cons rule rest inductionHypothesis =>
      have here : checkRule environment found rule = checkRule other found rule := by
        apply checkRule_congr
        intro path path_eq
        exact agree path (by simp [path_eq])
      have later : AgreeAt environment other (rest.filterMap rulePath?) := by
        intro path member
        apply agree path
        rw [List.filterMap_cons]
        split
        · exact member
        · exact List.mem_cons_of_mem _ member
      rw [List.foldlM_cons, List.foldlM_cons, here]
      cases checkRule other found rule with
      | error cause => simp only [Outcome.error_bind]
      | ok problems => simp only [Outcome.ok_bind, inductionHypothesis later]

theorem problems_congr (agree : AgreeAt environment other (rulePaths fields)) :
    problems environment (Value.field fields "rules") =
      problems other (Value.field fields "rules") := by
  unfold problems
  cases rules_eq : rulesOf (Value.field fields "rules") with
  | error cause => simp only [Outcome.error_bind]
  | ok rules =>
      simp only [rulePaths, rules_eq] at agree
      simp only [Outcome.ok_bind, foldlM_checkRule_congr agree]

end Handler

open Handler

/-- In environments with the same names that agree at the paths that a step reads, a built-in handler
does and replies the same. -/
theorem Kind.handler_congr {fields environment other : Object}
    (names_eq : Object.identities environment = Object.identities other) (kind : Kind)
    (agree : AgreeAt environment other (kind.reads (Object.identities environment) fields))
    (request : Request) (world : World) :
    kind.handler fields environment request world = kind.handler fields other request world := by
  cases kind with
  | input =>
      have bound : Value.field environment "input" = Value.field other "input" :=
        agree "input" (List.mem_singleton.2 rfl)
      simp only [handler, collectInput, ofAction, bound]
  | validation => simp only [handler, validateInput, ofAction, problems_congr agree]
  | find => simp only [handler, findDocuments, ofAction, resolveMapping_congr names_eq agree]
  | insert => simp only [handler, insertDocument, ofAction, resolveMapping_congr names_eq agree]
  | update =>
      simp only [handler, updateDocuments, ofAction, resolveMapping_congr names_eq agree.left,
        resolveMapping_congr names_eq agree.right]
  | delete => simp only [handler, deleteDocuments, ofAction, resolveMapping_congr names_eq agree]
  | auth => simp only [handler, authenticate, ofAction]
  | email =>
      simp only [handler, sendMail, ofAction, resolve_congr names_eq agree.left.left,
        resolve_congr names_eq agree.left.right, resolve_congr names_eq agree.right]
  | login =>
      simp only [handler, logIn, ofAction, resolve_congr names_eq agree.left,
        resolve_congr names_eq agree.right]

end Workflow
