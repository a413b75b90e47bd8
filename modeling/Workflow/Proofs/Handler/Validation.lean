import Mathlib.Data.List.Forall2
import Mathlib.Data.List.Induction
import Workflow.Proofs.Distinct
import Workflow.Proofs.Handler.Input

/-!
# Validation

A rule fails if it requires a value that is lacking, or if the value it is about is of another type
than it expects.  A validation reports the message of each failing rule exactly once, under the
field that the rule is about: the fields in order of their first failure, the messages about a field
in the order of the rules.

The messages are collected rule by rule into a list by field.  Each step of this turns the failures
so far, grouped by field, into one failure more, grouped by field.
-/

namespace Workflow

namespace Handler

/-! ## What is wrong under a rule -/

/-- The field that a rule is about, as it is written; a rule that names none is about the empty
text. -/
def ruleField (rule : Object) : String :=
  match Object.get? rule "field" with
  | some (.str field) => field
  | _ => ""

/-- A rule names its field by a text, if at all. -/
def NamesField (rule : Object) : Prop :=
  ∀ value, Object.get? rule "field" = some value → ∃ field, value = .str field

/-- The value that a rule is about. -/
def ruleValue (environment rule : Object) : Value :=
  Path.lookup environment (fieldPath (ruleField rule))

/-- A value is not of the type that is expected, as a message puts it. -/
inductive Mistyped (value : Value) : Value → String → Prop where
  | number (unfit : passesAsNumber value = false) : Mistyped value (.str "number") "Expected number"
  | string (other : ∀ text, value ≠ .str text) : Mistyped value (.str "string") "Expected string"
  | boolean (other : ∀ flag, value ≠ .bool flag) :
      Mistyped value (.str "boolean") "Expected boolean"

/-- A rule requires a value, and there is null or the empty text. -/
def Lacks (environment rule : Object) : Prop :=
  (Value.field rule "required").isTruthy = true ∧
    (ruleValue environment rule = .null ∨ ruleValue environment rule = .str "")

/-- What a rule says against the value that it is about.  A value that is lacking is not checked for
its type as well, and null has every type. -/
inductive Fails (environment rule : Object) : String → Prop where
  | lacking (lacks : Lacks environment rule) : Fails environment rule "Field is required"
  | mistyped {message : String} (there : ¬ Lacks environment rule)
      (given : ruleValue environment rule ≠ .null)
      (mistyped : Mistyped (ruleValue environment rule) (Value.field rule "type") message) :
      Fails environment rule message

variable {environment rule : Object} {value expected : Value} {message : String}

theorem typeProblem?_eq_some_iff :
    typeProblem? value expected = some message ↔ Mistyped value expected message := by
  constructor
  · intro problem
    unfold typeProblem? at problem
    split at problem
    · split at problem
      · cases problem
      · rename_i unfit
        obtain rfl := Option.some.inj problem
        exact .number (by simpa using unfit)
    · cases problem
    · rename_i other
      obtain rfl := Option.some.inj problem
      exact .string other
    · cases problem
    · rename_i other
      obtain rfl := Option.some.inj problem
      exact .boolean other
    · cases problem
  · rintro (unfit | other | other)
    · simp [typeProblem?, unfit]
    · cases value with
      | str text => exact absurd rfl (other text)
      | _ => rfl
    · cases value with
      | bool flag => exact absurd rfl (other flag)
      | _ => rfl

theorem isMissing_iff : isMissing value = true ↔ value = .null ∨ value = .str "" := by
  cases value <;> simp [isMissing]

theorem lacks_iff :
    Lacks environment rule ↔ ((Value.field rule "required").isTruthy &&
      isMissing (ruleValue environment rule)) = true := by
  rw [Bool.and_eq_true, isMissing_iff, Lacks]

theorem ruleProblem?_of_lacks (lacks : Lacks environment rule) :
    ruleProblem? environment rule (ruleField rule) = some "Field is required" :=
  if_pos (lacks_iff.1 lacks)

theorem ruleProblem?_of_null (there : ¬ Lacks environment rule)
    (null : ruleValue environment rule = .null) :
    ruleProblem? environment rule (ruleField rule) = none := by
  rw [ruleValue] at null
  rw [lacks_iff, ruleValue, null] at there
  simp only [ruleProblem?, null, if_neg there]

theorem ruleProblem?_of_given (there : ¬ Lacks environment rule)
    (given : ruleValue environment rule ≠ .null) :
    ruleProblem? environment rule (ruleField rule) =
      typeProblem? (ruleValue environment rule) (Value.field rule "type") := by
  refine (if_neg (mt lacks_iff.2 there)).trans ?_
  split
  · rename_i null
    exact absurd null given
  · rfl

/-- A rule has a problem exactly if it fails, with the message of the problem. -/
theorem ruleProblem?_eq_some_iff :
    ruleProblem? environment rule (ruleField rule) = some message ↔
      Fails environment rule message := by
  by_cases lacks : Lacks environment rule
  · rw [ruleProblem?_of_lacks lacks]
    constructor
    · intro same
      rw [← Option.some.inj same]
      exact .lacking lacks
    · rintro (_ | ⟨there, -, -⟩)
      · rfl
      · exact absurd lacks there
  · by_cases null : ruleValue environment rule = .null
    · rw [ruleProblem?_of_null lacks null]
      constructor
      · intro problem
        cases problem
      · rintro (lacking | ⟨-, given, -⟩)
        · exact absurd lacking lacks
        · exact absurd null given
    · rw [ruleProblem?_of_given lacks null, typeProblem?_eq_some_iff]
      constructor
      · exact .mistyped lacks null
      · rintro (lacking | ⟨-, -, mistyped⟩)
        · exact absurd lacking lacks
        · exact mistyped

/-- A rule fails, whatever the message. -/
def IsFailing (environment rule : Object) : Prop := ∃ message, Fails environment rule message

theorem isFailing_iff :
    IsFailing environment rule ↔
      (ruleProblem? environment rule (ruleField rule)).isSome = true := by
  simp only [IsFailing, ← ruleProblem?_eq_some_iff, Option.isSome_iff_exists]

instance (environment rule : Object) : Decidable (IsFailing environment rule) :=
  decidable_of_iff _ isFailing_iff.symm

/-! ## Failures -/

/-- The fields and messages of the rules that fail, in the order of the rules. -/
def failures (environment : Object) (rules : List Object) : List (String × String) :=
  rules.filterMap fun rule =>
    (ruleProblem? environment rule (ruleField rule)).map (ruleField rule, ·)

/-- There is one failure for each rule that fails. -/
theorem forall₂_failures (environment : Object) (rules : List Object) :
    List.Forall₂ (fun rule failure => failure.1 = ruleField rule ∧ Fails environment rule failure.2)
      (rules.filter (IsFailing environment ·)) (failures environment rules) := by
  induction rules with
  | nil => exact .nil
  | cons rule rest ih =>
      rw [failures, List.filterMap_cons]
      cases problem : ruleProblem? environment rule (ruleField rule) with
      | none =>
          have passes : ¬ IsFailing environment rule := by
            simp [isFailing_iff, problem]
          rw [List.filter_cons_of_neg (by simpa using passes)]
          exact ih
      | some message =>
          have fails : IsFailing environment rule := isFailing_iff.2 (by rw [problem]; rfl)
          rw [List.filter_cons_of_pos (by simpa using fails)]
          exact .cons ⟨rfl, ruleProblem?_eq_some_iff.1 problem⟩ ih

/-! ## Failures by field -/

/-- The fields of failures, each once, in order of first failure. -/
def failedFields (failures : List (String × String)) : List String := (failures.map (·.1)).eraseDups

/-- The messages of the failures of a field, in order. -/
def messagesAbout (failures : List (String × String)) (field : String) : List String :=
  (failures.filter (·.1 = field)).map (·.2)

/-- The messages about each field that failed. -/
def byField (failures : List (String × String)) : List (String × List String) :=
  (failedFields failures).map fun field => (field, messagesAbout failures field)

theorem map_fst_byField (failures : List (String × String)) :
    (byField failures).map (·.1) = failedFields failures := by
  rw [byField, List.map_map]
  exact List.map_id _

theorem nodup_failedFields (failures : List (String × String)) : (failedFields failures).Nodup :=
  nodup_eraseDups _

/-- A message about a field that has not failed before is listed last. -/
theorem addProblem_of_not_mem {problems : List (String × List String)} {field : String}
    (new : field ∉ problems.map (·.1)) (message : String) :
    addProblem field message problems = problems ++ [(field, [message])] := by
  induction problems with
  | nil => rfl
  | cons problem rest ih =>
      rw [List.map_cons, List.mem_cons, not_or] at new
      rw [addProblem, if_neg (Ne.symm new.1), ih new.2, List.cons_append]

/-- A message about a field that has failed before is added to the messages about it. -/
theorem addProblem_of_mem {problems : List (String × List String)} {field : String}
    (single : (problems.map (·.1)).Nodup) (known : field ∈ problems.map (·.1)) (message : String) :
    addProblem field message problems = problems.map fun problem =>
      (problem.1, if problem.1 = field then problem.2 ++ [message] else problem.2) := by
  induction problems with
  | nil => cases known
  | cons problem rest ih =>
      rw [List.map_cons, List.nodup_cons] at single
      rw [addProblem, List.map_cons]
      by_cases here : problem.1 = field
      · have others : rest.map (fun problem : String × List String =>
            (problem.1, if problem.1 = field then problem.2 ++ [message] else problem.2)) =
              rest := by
          conv => rhs; rw [← List.map_id rest]
          refine List.map_congr_left fun other member => ?_
          have apart : other.1 ≠ field := by
            rintro rfl
            exact single.1 (here ▸ List.mem_map_of_mem member)
          rw [if_neg apart, id_eq]
        rw [if_pos here, if_pos here, others]
      · rw [List.map_cons, List.mem_cons] at known
        have later : field ∈ rest.map (·.1) := known.resolve_left (Ne.symm here)
        rw [if_neg here, if_neg here, ih single.2 later]

theorem messagesAbout_concat (failures : List (String × String)) (field message known : String) :
    messagesAbout (failures ++ [(field, message)]) known =
      if known = field then messagesAbout failures known ++ [message]
      else messagesAbout failures known := by
  rw [messagesAbout, List.filter_append, List.map_append]
  by_cases same : known = field
  · simp [messagesAbout, same]
  · simp [messagesAbout, same, Ne.symm same]

/-- One more failure adds its message where the messages about its field are. -/
theorem addProblem_byField (failures : List (String × String)) (field message : String) :
    addProblem field message (byField failures) = byField (failures ++ [(field, message)]) := by
  by_cases known : field ∈ failures.map (·.1)
  · have fields_eq : failedFields (failures ++ [(field, message)]) = failedFields failures := by
      rw [failedFields, List.map_append]
      exact eraseDups_concat_of_mem known
    have listed : field ∈ (byField failures).map (·.1) := by
      rw [map_fst_byField]
      exact List.mem_eraseDups.2 known
    have single : ((byField failures).map (·.1)).Nodup := by
      rw [map_fst_byField]
      exact nodup_failedFields failures
    rw [addProblem_of_mem single listed, byField, byField, fields_eq, List.map_map]
    refine List.map_congr_left fun other _ => ?_
    rw [Function.comp_apply, messagesAbout_concat]
  · have fields_eq : failedFields (failures ++ [(field, message)]) =
        failedFields failures ++ [field] := by
      rw [failedFields, List.map_append]
      exact eraseDups_concat_of_not_mem known
    have unlisted : field ∉ (byField failures).map (·.1) := by
      rw [map_fst_byField]
      exact mt List.mem_eraseDups.1 known
    have nothing : messagesAbout failures field = [] := by
      rw [messagesAbout, List.map_eq_nil_iff, List.filter_eq_nil_iff]
      rintro failure member same
      exact known (List.mem_map.2 ⟨failure, member, by simpa using same⟩)
    rw [addProblem_of_not_mem unlisted, byField, byField, fields_eq, List.map_append]
    congr 1
    · refine List.map_congr_left fun other member => ?_
      have apart : other ≠ field := by
        rintro rfl
        exact known (List.mem_eraseDups.1 member)
      rw [messagesAbout_concat, if_neg apart]
    · rw [List.map_singleton, messagesAbout_concat, if_pos rfl, nothing, List.nil_append]

theorem length_flatMap_addProblem (field message : String)
    (problems : List (String × List String)) :
    ((addProblem field message problems).flatMap (·.2)).length =
      (problems.flatMap (·.2)).length + 1 := by
  induction problems with
  | nil => rfl
  | cons problem rest ih =>
      rw [addProblem]
      split
      · simp only [List.flatMap_cons, List.length_append, List.length_singleton]
        omega
      · simp only [List.flatMap_cons, List.length_append, ih]
        omega

/-- Grouped by field, no message is lost and none is told twice. -/
theorem length_flatMap_byField (failures : List (String × String)) :
    ((byField failures).flatMap (·.2)).length = failures.length := by
  induction failures using List.reverseRecOn with
  | nil => rfl
  | append_singleton front failure ih =>
      rw [← addProblem_byField, length_flatMap_addProblem, ih, List.length_append,
        List.length_singleton]

/-! ## All rules -/

theorem field_orElse (named : NamesField rule) :
    (Value.field rule "field").orElse (.str "") = .str (ruleField rule) := by
  unfold Value.field ruleField
  cases present : Object.get? rule "field" with
  | none => rfl
  | some value =>
      obtain ⟨field, rfl⟩ := named value present
      by_cases empty : field = ""
      · rw [empty]
        rfl
      · simp [Value.orElse, Value.isTruthy, empty]

/-- Checking a rule adds its failure to those before. -/
theorem checkRule_byField (named : NamesField rule) (found : List (String × String)) :
    checkRule environment (byField found) (.obj rule) =
      .ok (byField (found ++ failures environment [rule])) := by
  simp only [checkRule, field_orElse named, failures, List.filterMap_cons, List.filterMap_nil]
  cases ruleProblem? environment rule (ruleField rule) with
  | none => simp
  | some message => simp [addProblem_byField]

theorem foldlM_checkRule {rules : List Object} (named : ∀ rule ∈ rules, NamesField rule)
    (found : List (String × String)) :
    (rules.map .obj).foldlM (checkRule environment) (byField found) =
      .ok (byField (found ++ failures environment rules)) := by
  induction rules generalizing found with
  | nil => simp [failures]; rfl
  | cons rule rest ih =>
      obtain ⟨namedThis, namedThose⟩ := List.forall_mem_cons.1 named
      have split : failures environment (rule :: rest) =
          failures environment [rule] ++ failures environment rest := by
        rw [failures, failures, failures, ← List.filterMap_append, List.singleton_append]
      rw [List.map_cons, List.foldlM_cons, checkRule_byField namedThis, Outcome.ok_bind,
        ih namedThose, split, List.append_assoc]

variable {fields : Object} {request : Request} {world : World}

theorem problems_eq {rules : List Object}
    (listed : (Value.field fields "rules").orElse (.arr []) = .arr (rules.map .obj))
    (named : ∀ rule ∈ rules, NamesField rule) :
    problems environment (Value.field fields "rules") =
      .ok (byField (failures environment rules)) := by
  have rules_eq : rulesOf (Value.field fields "rules") = .ok (rules.map .obj) := by
    rw [rulesOf, listed]
    rfl
  rw [problems, rules_eq, Outcome.ok_bind]
  exact foldlM_checkRule named []

/-- There is nothing to report exactly if no rule fails. -/
theorem isEmpty_byField_iff (environment : Object) (rules : List Object) :
    (byField (failures environment rules)).isEmpty = true ↔
      ∀ rule ∈ rules, ¬ IsFailing environment rule := by
  have paired := (forall₂_failures environment rules).length_eq
  have counted := length_flatMap_byField (failures environment rules)
  constructor
  · intro empty
    rw [List.isEmpty_iff.1 empty] at counted
    rw [← counted] at paired
    simpa [List.filter_eq_nil_iff] using List.length_eq_zero_iff.1 paired
  · intro passes
    have none_failing : rules.filter (IsFailing environment ·) = [] := by
      simpa [List.filter_eq_nil_iff] using passes
    rw [none_failing] at paired
    rw [List.length_eq_zero_iff.1 paired.symm]
    rfl

/-- A validation reports every failure exactly once.  It finishes with true if no rule fails, and
otherwise fails with the messages of the rules that do, one for each, listed under the fields of
these rules as they are written: the fields in order of first failure, the messages about a field in
the order of the rules. -/
theorem validateInput_reports (fields environment : Object) (request : Request) (world : World)
    (rules : List Object)
    (listed : (Value.field fields "rules").orElse (.arr []) = .arr (rules.map .obj))
    (named : ∀ rule ∈ rules, NamesField rule) :
    let failing := rules.filter (IsFailing environment ·)
    let failed := failures environment rules
    let errors : Object := (failedFields failed).map fun field =>
      (.text field, .ofTexts (messagesAbout failed field))
    let details : Object :=
      [("errors", .obj errors), ("failedFields", .ofTexts (failedFields failed))]
    validateInput fields environment request world =
      { result :=
          if ∀ rule ∈ rules, ¬ IsFailing environment rule then .ok (.bool true)
          else .error (.step (.validation (byField failed)))
        world } ∧
    List.Forall₂ (fun rule failure => failure.1 = ruleField rule ∧ Fails environment rule failure.2)
      failing failed ∧
    ((byField failed).flatMap (·.2)).length = failing.length ∧
    (failedFields failed).Nodup ∧
    (StepError.validation (byField failed)).report.details = details := by
  intro failing failed errors details
  have paired := forall₂_failures environment rules
  refine ⟨?_, paired, ?_, nodup_failedFields failed, ?_⟩
  · rw [validateInput_eq, problems_eq listed named]
    simp only [isEmpty_byField_iff]
    rfl
  · rw [length_flatMap_byField, paired.length_eq]
  · rw [StepError.report, map_fst_byField, byField, List.map_map]
    rfl

/-- Two rules about one field, a placeholder, a rule about no field and a value that is null. -/
theorem validateInput_reports_several :
    let environment : Object := [("input", .obj [("age", .str "old"), ("name", .str "")])]
    let rules : List Object :=
      [[("field", .str "input.age"), ("type", .str "number")],
        [("field", .str "\x7b\x7b input.name \x7d\x7d"), ("required", .bool true)],
        [("field", .str "input.mail"), ("type", .str "string")],
        [("field", .str "input.age"), ("type", .str "boolean")],
        [("required", .int 1), ("type", .str "string")]]
    let fields : Object := [("rules", .arr (rules.map .obj))]
    (Value.field fields "rules").orElse (.arr []) = .arr (rules.map .obj) ∧
      (∀ rule ∈ rules, NamesField rule) ∧
      validateInput fields environment { executionId := "first" } {} =
        { result := .error (.step (.validation
            [("input.age", ["Expected number", "Expected boolean"]),
              ("\x7b\x7b input.name \x7d\x7d", ["Field is required"]),
              ("", ["Field is required"])]))
          world := {} } := by
  intro environment rules fields
  have listed : (Value.field fields "rules").orElse (.arr []) = .arr (rules.map .obj) := rfl
  have named : ∀ rule ∈ rules, NamesField rule := by
    simp [rules, NamesField, Object.get?]
  have found : byField (failures environment rules) =
      [("input.age", ["Expected number", "Expected boolean"]),
        ("\x7b\x7b input.name \x7d\x7d", ["Field is required"]), ("", ["Field is required"])] := by
    with_unfolding_all rfl
  obtain ⟨replied, -⟩ :=
    validateInput_reports fields environment { executionId := "first" } {} rules listed named
  have fails : ¬ ∀ rule ∈ rules, ¬ IsFailing environment rule := by
    rw [← isEmpty_byField_iff, found]
    exact Bool.false_ne_true
  rw [if_neg fails, found] at replied
  exact ⟨listed, named, replied⟩

end Handler

end Workflow
