import Workflow.Proofs.Engine.Bindings
import Workflow.Proofs.Graph.CompiledSteps
import Workflow.Proofs.Template.Filling

/-!
# Requirements that stay met

The value that a finished validation step required is what later steps read under the same
placeholder.  Between the check and the use, input steps extend the object bound to `input`, and
other steps bind other variables.
-/

namespace Workflow

open Template (canonical canonicalPath canonicalText)

/-- A validation node has a rule that requires the value under a placeholder with a path, written as
a text that is nothing but the placeholder. -/
structure Node.Requires (node : Node) (declared : List String) (rule : Object)
    (written path : String) : Prop where
  kind_eq : node.kind = .validation
  listed : ∃ rules, Value.field node.fields "rules" = .arr rules ∧ .obj rule ∈ rules
  required : (canonical declared (Value.field rule "required")).isTruthy = true
  field_eq : Value.field rule "field" = .str written
  lone : Template.lone? written = some path
  given : path ≠ ""

namespace Execution

variable {request : Request} {step : Step} {environment : Object} {world : World}

/-! ## What a rule checks -/

/-- A rule about a lone placeholder is about its canonical path. -/
theorem fieldPath_canonicalText {declared : List String} {written path : String}
    (lone : Template.lone? written = some path) (given : path ≠ "") :
    Handler.fieldPath (canonicalText declared written) = canonicalPath path declared := by
  have plain := (Template.hasSlot_canonicalPath lone given declared).2
  rw [canonicalText, lone, Handler.fieldPath, plain, Option.getD_none]

/-- When the step of a validation node finishes, the value that the node requires is there. -/
theorem isMissing_of_requires {node : Node} {declared : List String} {rule : Object}
    {written path : String} (requires : node.Requires declared rule written path) {position : Nat}
    (made : node.toStep declared position = .ok step) {value : Value}
    (finished : (reply .standard request step environment world).result = .ok value) :
    Handler.isMissing (Path.lookup environment (canonicalPath path declared)) = false := by
  obtain ⟨rules, rules_eq, listed⟩ := requires.listed
  have compiledRules : Value.field step.fields "rules" =
      .arr (Template.canonicalItems declared rules) := by
    rw [Node.field_of_toStep made (by decide), rules_eq, canonical]
  have compiledField : (Value.field (Template.canonicalFields declared rule) "field").orElse
      (.str "") = .str (canonicalText declared written) := by
    have path_ne := Template.canonicalPath_ne requires.given declared
    rw [Template.field_canonicalFields, requires.field_eq, canonical, canonicalText, requires.lone,
      Value.orElse, if_pos]
    simpa [Value.isTruthy] using path_ne
  have validates : Kind.validation.name = step.kind := by
    obtain ⟨output, -, rfl⟩ := Node.toStep_eq_ok_iff.1 made
    rw [requires.kind_eq]
  rw [reply_standard validates, Kind.handler] at finished
  rw [← fieldPath_canonicalText requires.lone requires.given]
  apply Handler.isMissing_of_validateInput finished compiledRules
    (Template.mem_canonicalItems listed) ?_ compiledField
  rw [Template.field_canonicalFields]
  exact requires.required

/-! ## What later steps read -/

/-- What a validation node requires stays there.  After its step has finished, every later step that
is reached before a step other than an input step binds the root of the path anew finds under the
same placeholder a value that is neither null nor the empty text, and, unless the path is that of the
whole input, the value that the rule checked. -/
theorem requirement_stays (graph : Graph) (steps : List Step) (compiled : graph.compile = .ok steps)
    (node : Node) (member : node ∈ graph.nodes) (rule : Object) (written path : String)
    (requires : node.Requires graph.declaredVariables rule written path)
    (request : Request) (input : Object) (single : (Object.identities input).Nodup)
    (scene last : Scene) (progress : Progress) (stop : Option Stop)
    (ran : runFrom .standard request 0 steps (start input) scene = ((progress, stop), last))
    (i : Nat) (step : Step) (becomes : graph.Becomes steps node.id i step) (entry : Entry)
    (entryAt : progress.entries[i]? = some entry) (finished : entry.phase = .finished)
    (j : Nat) (after : i < j) (later : Entry) (laterAt : progress.entries[j]? = some later)
    (inputs : Step.OnlyInputsBind (steps.take j) "input")
    (kept : Step.OnlyInputsBind ((steps.take j).drop i)
      (Path.root (canonicalPath path graph.declaredVariables)))
    (text : String) (same : Template.lone? text = some path) :
    ∃ value,
      Template.resolve later.environment (canonical graph.declaredVariables (.str text)) =
        .ok value ∧
      Handler.isMissing value = false ∧
      (canonicalPath path graph.declaredVariables ≠ "input" →
        value = Path.lookup entry.environment
          (Handler.fieldPath (canonicalText graph.declaredVariables written))) := by
  obtain ⟨made, here, there, madeAt, folded, between, replied⟩ :=
    (trail_of_runFrom Registry.standard_leavesInput ran).foldlM_between entryAt laterAt after.le
  obtain rfl : made = step := Option.some.inj (madeAt.symm.trans becomes.stepAt)
  obtain ⟨value, replied⟩ := replied finished
  -- The rule found a value in the environment of its step.
  have found := isMissing_of_requires requires (becomes.toStep_eq compiled member) replied
  -- An input step binds nothing but `input`, so no step binds another root anew.
  have others : Path.root (canonicalPath path graph.declaredVariables) ≠ "input" →
      ∀ step ∈ (steps.take j).drop i,
        step.output ≠ Path.root (canonicalPath path graph.declaredVariables) := by
    intro elsewhere step between binds
    have inSteps : step ∈ steps := List.mem_of_mem_take (List.mem_of_mem_drop between)
    have output_eq := Graph.output_of_input_kind compiled inSteps (kept step between binds)
    exact elsewhere (binds.symm.trans output_eq)
  have begun : HoldsInput [("input", .obj input)] input := ⟨rfl, single⟩
  obtain ⟨bound, holds, -⟩ := begun.of_foldlM
    (fun step member => inputs step (List.take_subset_take_left _ after.le member)) folded
  obtain ⟨there, same_value⟩ := lookup_stays holds
    (fun step member => inputs step (List.mem_of_mem_drop member)) others between found
  refine ⟨_, Template.resolve_canonical_of_lone same requires.given ?_, there, ?_⟩
  · apply Path.contains_root
    intro absent
    rw [absent] at there
    cases there
  · rw [fieldPath_canonicalText requires.lone requires.given]
    exact same_value

/-- An email that was checked stands under its placeholder two steps later, although the input is
completed between. -/
theorem requirement_stays_completed :
    let declare (name : String) : Value := .obj [("name", .str name)]
    let rule : Object := [("field", .str "\x7b\x7b email \x7d\x7d"), ("required", .bool true)]
    let collect : Node :=
      { id := "collect", kind := .input, fields := [("variables", .arr [declare "email"])] }
    let check : Node :=
      { id := "check", kind := .validation, fields := [("rules", .arr [.obj rule])] }
    let complete : Node :=
      { id := "complete", kind := .input, fields := [("variables", .arr [declare "note"])] }
    let store : Node := { id := "store", kind := .insert }
    let graph : Graph :=
      { nodes := [collect, check, complete, store]
        edges := [⟨"1", "collect", "check"⟩, ⟨"2", "check", "complete"⟩,
          ⟨"3", "complete", "store"⟩] }
    let given : Object := [("email", .str "ada@example.com")]
    ∃ steps progress stop last entry later, graph.compile = .ok steps ∧
      runFrom .standard { executionId := "first" } 0 steps (start given) {} =
        ((progress, stop), last) ∧
      progress.entries[1]? = some entry ∧ entry.phase = .finished ∧
      progress.entries[3]? = some later ∧ Value.field entry.environment "input" = .obj given ∧
      Value.field later.environment "input" =
        .obj [("email", .str "ada@example.com"), ("note", .null)] ∧
      Template.resolve later.environment
        (canonical graph.declaredVariables (.str "\x7b\x7bemail\x7d\x7d")) =
          .ok (.str "ada@example.com") := by
  obtain ⟨steps, progress, stop, last, entry, later, steps_eq, ran, entryAt, finished, laterAt, bound,
      boundLater⟩ :
      ∃ steps progress stop last entry later, steps =
          [⟨"step1", "input", [("variables", .arr [.obj [("name", .str "email")]])], "input"⟩,
            ⟨"step2", "inputValidation",
              [("rules", .arr [.obj [("field", .str "input.email"), ("required", .bool true)]])],
              "validated"⟩,
            ⟨"step3", "input", [("variables", .arr [.obj [("name", .str "note")]])], "input"⟩,
            ⟨"step4", "dbInsert", [], "createdRecord"⟩] ∧
        runFrom .standard { executionId := "first" } 0 steps
          (start [("email", .str "ada@example.com")]) {} = ((progress, stop), last) ∧
        progress.entries[1]? = some entry ∧ entry.phase = .finished ∧
        progress.entries[3]? = some later ∧
        Value.field entry.environment "input" = .obj [("email", .str "ada@example.com")] ∧
        Value.field later.environment "input" =
          .obj [("email", .str "ada@example.com"), ("note", .null)] :=
    ⟨_, _, _, _, _, _, rfl, rfl, rfl, rfl, rfl, rfl, rfl⟩
  intro declare rule collect check complete store graph given
  have compiled : graph.compile = .ok steps := by
    rw [steps_eq]
    with_unfolding_all rfl
  have path_eq : canonicalPath "email" graph.declaredVariables = "input.email" := by
    with_unfolding_all rfl
  have lone : Template.lone? "\x7b\x7b email \x7d\x7d" = some "email" := by with_unfolding_all rfl
  have requires : check.Requires graph.declaredVariables rule "\x7b\x7b email \x7d\x7d" "email" :=
    ⟨rfl, ⟨_, rfl, List.mem_singleton.2 rfl⟩, rfl, rfl, lone, by decide⟩
  obtain ⟨step, becomes⟩ : ∃ step, graph.Becomes steps "check" 1 step :=
    ⟨_, [collect, check, complete, store], check, by with_unfolding_all rfl, rfl, rfl,
      by rw [steps_eq]; rfl⟩
  obtain ⟨value, resolved, -, value_eq⟩ :=
    requirement_stays graph steps compiled check (by simp [graph]) rule _ "email" requires
      { executionId := "first" } given (by decide) {} last progress stop ran 1 step becomes entry
      entryAt finished 3 (by decide) later laterAt (by rw [steps_eq]; decide)
      (by rw [path_eq, steps_eq]; decide) "\x7b\x7bemail\x7d\x7d" (by with_unfolding_all rfl)
  have segmented : Path.segments "input.email" = ["input", "email"] := by decide +kernel
  have checked : value = .str "ada@example.com" := by
    rw [value_eq (by rw [path_eq]; decide), fieldPath_canonicalText lone (by decide), path_eq,
      Path.lookup_pair segmented bound]
    rfl
  rw [checked] at resolved
  exact ⟨steps, progress, stop, last, entry, later, compiled, ran, entryAt, finished, laterAt, bound,
    boundLater, resolved⟩

end Execution

end Workflow
