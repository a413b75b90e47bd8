import Workflow.Proofs.Engine.Trail
import Workflow.Proofs.Handler.Reads

/-!
# Names that are bound

Which names are bound when a step is called depends on the steps before it and not on the input.  So
the plan of a field does not depend on the input either: a text that comes in with the input, from
the store or with claims is copied or printed where the plan refers to it, and is never read as a
template or as a path of its own.
-/

namespace Workflow

open Template (plan resolve resolve_eq_carryOut)

namespace Execution

/-- Bind an output variable among names; a bound one stays where it is. -/
def bindName (names : List Name.Identity) (output : String) : List Name.Identity :=
  if .text output ∈ names then names else names ++ [.text output]

/-- The names that are bound after steps: `input` and their output variables. -/
def namesAfter (steps : List Step) : List Name.Identity :=
  steps.foldl (fun names step => bindName names step.output) [.text "input"]

theorem mem_bindName_iff {names : List Name.Identity} {output : String} {name : Name.Identity} :
    name ∈ bindName names output ↔ name ∈ names ∨ name = .text output := by
  unfold bindName
  split
  · rename_i bound
    constructor
    · exact Or.inl
    · rintro (member | rfl)
      · exact member
      · exact bound
  · rw [List.mem_append, List.mem_singleton]

theorem mem_foldl_bindName_iff {steps : List Step} {names : List Name.Identity}
    {name : Name.Identity} :
    name ∈ steps.foldl (fun names step => bindName names step.output) names ↔
      name ∈ names ∨ ∃ step ∈ steps, name = .text step.output := by
  induction steps generalizing names with
  | nil => simp
  | cons step rest inductionHypothesis =>
      rw [List.foldl_cons, inductionHypothesis, mem_bindName_iff, or_assoc]
      simp

/-- The bound names are `input` and the output variables of the steps. -/
theorem mem_namesAfter_iff {steps : List Step} {name : Name.Identity} :
    name ∈ namesAfter steps ↔ name = .text "input" ∨ ∃ step ∈ steps, name = .text step.output := by
  rw [namesAfter, mem_foldl_bindName_iff, List.mem_singleton]

theorem identities_set_output (environment : Object) (output : String) (value : Value) :
    Object.identities (Object.set environment output value) =
      bindName (Object.identities environment) output :=
  Object.identities_set environment output value

/-- Binding one output for each step binds the names of the steps, whatever the outputs are. -/
theorem identities_bindOutputs {steps : List Step} {entries : List Entry}
    (length_eq : entries.length = steps.length) (environment : Object) :
    Object.identities (bindOutputs environment (steps.zip entries)) =
      steps.foldl (fun names step => bindName names step.output)
        (Object.identities environment) := by
  induction steps generalizing entries environment with
  | nil => simp [bindOutputs]
  | cons step rest inductionHypothesis =>
      cases entries with
      | nil => cases length_eq
      | cons entry others =>
          have bound := inductionHypothesis (Nat.succ.inj length_eq)
            (Object.set environment step.output entry.output)
          rw [identities_set_output] at bound
          exact bound

variable {registry : Registry Handler} {request : Request} {steps : List Step} {input : Object}
  {scene last : Scene} {progress : Progress}

/-- A run that does not stop has bound the names of its steps. -/
theorem identities_of_runFrom (leaves : registry.LeavesInput)
    (ran : runFrom registry request 0 steps (start input) scene = ((progress, none), last)) :
    Object.identities progress.environment = namesAfter steps := by
  obtain ⟨-, length_eq, -, bound⟩ := (trail_of_runFrom leaves ran).of_not_stopped
  rw [bound, identities_bindOutputs length_eq]
  rfl

/-- Two runs of the same steps, for whatever inputs, in whatever scenes and for whatever requests,
that come to a step have the same names bound there: `input` and the output variables of the steps
before.  Every value in a field is read by the same plan in both.  And the step does and replies the
same in every environment with these names that has the same values at the paths that stand in its
fields, whatever else the environment, the store or the request holds. -/
theorem runFrom_reads (steps : List Step) (position : Nat) (request other : Request)
    (input otherInput : Object) (scene otherScene : Scene)
    (progress otherProgress : Progress) (last otherLast : Scene)
    (ran : runFrom .standard request 0 (steps.take position) (start input) scene =
      ((progress, none), last))
    (ranToo : runFrom .standard other 0 (steps.take position) (start otherInput) otherScene =
      ((otherProgress, none), otherLast)) :
    ∃ names, Object.identities progress.environment = names ∧
      Object.identities otherProgress.environment = names ∧
      (∀ name, name ∈ names ↔
        name = .text "input" ∨ ∃ step ∈ steps.take position, name = .text step.output) ∧
      (∀ value,
        resolve progress.environment value = (plan names value).carryOut progress.environment ∧
        resolve otherProgress.environment value =
          (plan names value).carryOut otherProgress.environment) ∧
      ∀ step ∈ steps[position]?, ∀ kind : Kind, kind.name = step.kind →
        ∀ environment, Object.identities environment = names →
          Handler.AgreeAt progress.environment environment (kind.reads names step.fields) →
          ∀ request world, reply .standard request step progress.environment world =
            reply .standard request step environment world := by
  have first := identities_of_runFrom Registry.standard_leavesInput ran
  have second := identities_of_runFrom Registry.standard_leavesInput ranToo
  refine ⟨namesAfter (steps.take position), first, second, fun name => mem_namesAfter_iff, ?_, ?_⟩
  · intro value
    constructor
    · rw [← first]
      exact resolve_eq_carryOut progress.environment value
    · rw [← second]
      exact resolve_eq_carryOut otherProgress.environment value
  · intro step _ kind same environment names_eq agree request world
    rw [reply_standard same, reply_standard same]
    rw [← first] at names_eq agree
    exact kind.handler_congr names_eq.symm agree request world

/-- A note that looks like a template is copied as it stands, by the plan that finds no note in an
empty input. -/
theorem runFrom_reads_template :
    let steps : List Step := [⟨"step1", "input", [], "input"⟩,
      ⟨"step2", "dbInsert", [("data", .obj [("note", .str "input.note")])], "saved"⟩]
    let template := "\x7b\x7binput.secret\x7d\x7d"
    let run (input : Object) :=
      runFrom .standard { executionId := "first" } 0 (steps.take 1) (start input) {}
    ∃ progress other last otherLast,
      run [("note", .str template), ("secret", .str "rosebud")] = ((progress, none), last) ∧
      run [] = ((other, none), otherLast) ∧
      Object.identities progress.environment = Object.identities other.environment ∧
      resolve progress.environment (.str "input.note") = .ok (.str template) ∧
      resolve other.environment (.str "input.note") = .ok .null := by
  intro steps template run
  obtain ⟨names, first, second, -, planned, -⟩ :=
    runFrom_reads steps 1 { executionId := "first" } { executionId := "first" }
      [("note", .str template), ("secret", .str "rosebud")] [] {} {} _ _ _ _ rfl rfl
  refine ⟨_, _, _, _, rfl, rfl, first.trans second.symm, (planned _).1.trans ?_,
    (planned _).2.trans ?_⟩
  · rw [← first]
    with_unfolding_all rfl
  · rw [← second]
    with_unfolding_all rfl

end Execution

end Workflow
