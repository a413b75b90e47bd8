import Workflow.Proofs.Engine.Ending
import Workflow.Proofs.Engine.Trail

/-!
# Executions of lists of steps in sequence

The execution of two lists of steps, one after the other, is that of the first list when it fails,
and goes on with the second list from where the first one left off when it succeeds.
-/

namespace Workflow

/-- A progress that has come as far as another one, with entries in front of those of the other. -/
structure Progress.Behind (before : List Entry) (progress other : Progress) : Prop where
  environment_eq : progress.environment = other.environment
  entries_eq : progress.entries = before ++ other.entries

theorem Progress.Behind.bind {before : List Entry} {progress other : Progress}
    (behind : progress.Behind before other) (output : String) (value : Value) (entry : Entry) :
    (progress.bind output value entry).Behind before (other.bind output value entry) where
  environment_eq := by simp only [Progress.bind, behind.environment_eq]
  entries_eq := by simp only [Progress.bind, behind.entries_eq, List.append_assoc]

namespace Execution

variable {registry : Registry Handler} {request : Request}

/-- A run of two lists is the run of the first one, which goes on with the second one unless it has
stopped. -/
theorem runFrom_append (index : Nat) (first second : List Step) (progress : Progress)
    (scene : Scene) :
    runFrom registry request index (first ++ second) progress scene =
      match runFrom registry request index first progress scene with
      | ((after, none), last) =>
        runFrom registry request (index + first.length) second after last
      | stopped => stopped := by
  induction first generalizing index progress scene with
  | nil => rfl
  | cons step rest ih =>
      rw [List.cons_append, runFrom, runFrom]
      rcases runStep registry request index step progress scene with ⟨stopped | next, last⟩
      · rfl
      · simp only [ih, List.length_cons, Nat.add_assoc, Nat.add_comm 1]

/-- A handler that sets fields in the object bound to `input` changes entries, but adds none. -/
theorem length_entries_write (progress : Progress) (writes : Object) :
    (progress.write writes).entries.length = progress.entries.length := by
  unfold Progress.write
  split
  · rfl
  · simp [Progress.amend]

/-- A step adds one entry. -/
theorem length_entries_runStep {index : Nat} {step : Step} {progress after : Progress}
    {scene last : Scene}
    (ran : runStep registry request index step progress scene = (.ok after, last)) :
    after.entries.length = progress.entries.length + 1 := by
  unfold runStep at ran
  dsimp only at ran
  split at ran
  · obtain rfl := Except.ok.inj (Prod.mk.inj ran).1
    simp [Progress.bind, length_entries_write]
  · cases ran

/-- A run that does not stop adds one entry for each step. -/
theorem length_entries_runFrom {index : Nat} {steps : List Step} {progress after : Progress}
    {scene last : Scene}
    (ran : runFrom registry request index steps progress scene = ((after, none), last)) :
    after.entries.length = progress.entries.length + steps.length := by
  induction steps generalizing index progress scene with
  | nil =>
      obtain ⟨rfl, -⟩ : progress = after ∧ scene = last := by simpa [runFrom] using ran
      rfl
  | cons step rest ih =>
      rw [runFrom] at ran
      split at ran
      · rename_i next nextScene stepped
        rw [ih ran, length_entries_runStep stepped, List.length_cons]
        omega
      · cases ran

/-- The entries of a step are told by the environment in which it is called. -/
theorem recordBoth_congr {progress other : Progress}
    (same : progress.environment = other.environment) (index : Nat) (step : Step) (scene : Scene)
    (ending : Entry) :
    recordBoth request index step progress scene ending =
      recordBoth request index step other scene ending := by
  simp only [recordBoth, Progress.entry, same]

/-- What a run does, and the entries that it adds, do not depend on the entries before them. -/
theorem runFrom_behind (leaves : registry.LeavesInput) (request : Request) {before : List Entry}
    (index : Nat) (steps : List Step) {progress other : Progress}
    (behind : progress.Behind before other) (scene : Scene) :
    ∃ (after reached : Progress) (stop : Option Stop) (last : Scene),
      runFrom registry request index steps progress scene = ((after, stop), last) ∧
      runFrom registry request index steps other scene = ((reached, stop), last) ∧
      after.Behind before reached := by
  induction steps generalizing index progress other scene with
  | nil => exact ⟨progress, other, none, scene, rfl, rfl, behind⟩
  | cons step rest ih =>
      have same := behind.environment_eq
      simp only [runFrom]
      cases outcome : (reply registry request step other.environment scene.world).result with
      | ok value =>
          rw [runStep_of_ok leaves index outcome, runStep_of_ok leaves index (same ▸ outcome), same,
            recordBoth_congr same]
          exact ih (index + 1) (behind.bind step.output value _) _
      | error failure =>
          rw [runStep_of_error leaves index outcome,
            runStep_of_error leaves index (same ▸ outcome), same, recordBoth_congr same]
          refine ⟨_, _, _, _, rfl, rfl, rfl, ?_⟩
          simp only [behind.entries_eq, List.append_assoc]

end Execution

/-- The result of an execution is told by its environment and its entries. -/
theorem Result.conclude_congr {executionId : String} {progress other : Progress}
    (environment_eq : progress.environment = other.environment)
    (entries_eq : progress.entries = other.entries) (stop : Option Execution.Stop) :
    conclude executionId progress stop = conclude executionId other stop := by
  simp only [conclude, ofEnding, environment_eq, entries_eq]

namespace Engine

variable {engine after : Engine} {first second : List Step} {input headers : Value}
  {executionId : Option String}

/-- An execution that fails does not depend on the steps after its own. -/
theorem execute_append_of_failed
    (fails : ∀ result, (engine.execute first input headers executionId).1 = .ok result →
      result.ok = false) :
    engine.execute (first ++ second) input headers executionId =
      engine.execute first input headers executionId := by
  cases sent_eq : Pairs.toObject headers with
  | error cause => simp only [execute_eq, executeAs, sent_eq]
  | ok sent =>
      cases bound_eq : Pairs.toObject input with
      | error cause => simp only [execute_eq, executeAs, sent_eq, bound_eq]
      | ok bound =>
          obtain ⟨progress, stop, scene, run_eq⟩ : ∃ progress stop scene,
              Execution.runFrom engine.registry (engine.request executionId sent) 0 first
                (Execution.start bound) (engine.identify executionId).2.scene =
              ((progress, stop), scene) :=
            ⟨_, _, _, rfl⟩
          have first_eq := execute_of_run bound_eq sent_eq run_eq
          cases stop with
          | none => cases fails _ (congrArg Prod.fst first_eq)
          | some stop =>
              rw [first_eq]
              apply execute_of_run bound_eq sent_eq
              rw [Execution.runFrom_append, run_eq]

/-- An execution succeeds when its run does not stop, and shows where the run came to. -/
theorem run_of_execute_ok {result : Result}
    (returned : engine.execute first input headers executionId = (.ok result, after))
    (succeeded : result.ok = true) :
    ∃ sent bound progress scene,
      Pairs.toObject headers = .ok sent ∧ Pairs.toObject input = .ok bound ∧
      Execution.runFrom engine.registry (engine.request executionId sent) 0 first
          (Execution.start bound) (engine.identify executionId).2.scene =
        ((progress, none), scene) ∧
      result.output = progress.environment ∧ result.steps = progress.entries ∧
      after = { (engine.identify executionId).2 with scene } := by
  obtain ⟨sent, bound, progress, stop, scene, sent_eq, bound_eq, run_eq, ended, after_eq⟩ :=
    execute_eq_ok_iff.1 returned
  cases stop with
  | none =>
      rw [Result.ofEnding_none] at ended
      obtain rfl := Except.ok.inj ended
      exact ⟨sent, bound, progress, scene, sent_eq, bound_eq, run_eq, rfl, rfl, after_eq⟩
  | some stop =>
      obtain ⟨message, -, rfl⟩ := Result.ofEnding_some_eq_ok_iff.1 ended
      cases succeeded

/-- An execution that fails does not depend on the steps after its own.  When an execution succeeds
and no handler sets fields in the object bound to `input`, further steps are run from its output and
its scene, and their entries follow its own. -/
theorem execute_append (engine : Engine) (first second : List Step) (input headers : Value)
    (executionId : Option String) :
    ((∀ result, (engine.execute first input headers executionId).1 = .ok result →
        result.ok = false) →
      engine.execute (first ++ second) input headers executionId =
        engine.execute first input headers executionId) ∧
    (engine.registry.LeavesInput → ∀ result after,
      engine.execute first input headers executionId = (.ok result, after) → result.ok = true →
      ∃ sent last entries holders stop scene,
        Pairs.toObject headers = .ok sent ∧
        Execution.runFrom engine.registry (engine.request executionId sent) first.length second
            { environment := result.output } after.scene = ((⟨last, entries, holders⟩, stop), scene) ∧
        engine.execute (first ++ second) input headers executionId =
          (Result.conclude (engine.identify executionId).1
              { environment := last, entries := result.steps ++ entries } stop,
            { after with scene }) ∧
        ∀ whole, (engine.execute (first ++ second) input headers executionId).1 = .ok whole →
          whole.steps.take first.length = result.steps) := by
  refine ⟨execute_append_of_failed, ?_⟩
  intro leaves result after returned succeeded
  obtain ⟨sent, bound, progress, scene, sent_eq, bound_eq, run_eq, output_eq, steps_eq, rfl⟩ :=
    run_of_execute_ok returned succeeded
  have behind : progress.Behind result.steps { environment := result.output } :=
    ⟨output_eq.symm, by simp [steps_eq]⟩
  obtain ⟨reached, ⟨last, entries, holders⟩, stop, lastScene, continued, afresh, behind⟩ :=
    Execution.runFrom_behind leaves (engine.request executionId sent) first.length second behind
      scene
  have whole_eq : Execution.runFrom engine.registry (engine.request executionId sent) 0
      (first ++ second) (Execution.start bound) (engine.identify executionId).2.scene =
        ((reached, stop), lastScene) := by
    rw [Execution.runFrom_append, run_eq]
    simpa only [Nat.zero_add] using continued
  have executed : engine.execute (first ++ second) input headers executionId =
      (Result.conclude (engine.identify executionId).1
          { environment := last, entries := result.steps ++ entries } stop,
        { (engine.identify executionId).2 with scene := lastScene }) := by
    rw [execute_of_run bound_eq sent_eq whole_eq]
    refine Prod.ext ?_ rfl
    apply Result.conclude_congr
    · exact behind.environment_eq
    · exact behind.entries_eq
  have length_eq : result.steps.length = first.length := by
    simpa [steps_eq, Execution.start] using Execution.length_entries_runFrom run_eq
  refine ⟨sent, last, entries, holders, stop, lastScene, sent_eq, afresh, executed, ?_⟩
  intro whole whole_ok
  rw [executed] at whole_ok
  rw [(Result.eq_of_ofEnding (Result.conclude_eq_ok_iff.1 whole_ok)).2, ← length_eq, List.take_left]

/-- A registered user stays when the step after it is of an unknown kind; in front of it that step
keeps the user from being registered. -/
theorem execute_append_unknownKind :
    let insert : Step := ⟨"step1", "dbInsert",
      [("collection", .str "users"), ("data", .obj [("email", .str "ada@example.com")])], "user"⟩
    let unknown : Step := ⟨"step2", "teleport", [], "there"⟩
    let engine : Engine := { scene := { world := { store := .ofNames ["users"] } } }
    let execute (steps : List Step) := engine.execute steps (.obj []) .null (some "first")
    execute [unknown, insert] = execute [unknown] ∧
      ∃ result after whole there, execute [insert] = (.ok result, after) ∧ result.ok = true ∧
        execute [insert, unknown] = (.ok whole, there) ∧ whole.ok = false ∧
        whole.steps.take 1 = result.steps := by
  intro insert unknown engine execute
  have append (first second : List Step) :=
    execute_append engine first second (.obj []) .null (some "first")
  obtain ⟨result, after, returned⟩ : ∃ result after, execute [insert] = (.ok result, after) :=
    ⟨_, _, by with_unfolding_all rfl⟩
  obtain ⟨whole, there, executed⟩ : ∃ whole there,
      execute [insert, unknown] = (.ok whole, there) :=
    ⟨_, _, by with_unfolding_all rfl⟩
  have succeeded : result.ok = true := by
    have ok_eq : (execute [insert]).1.toOption.map (·.ok) = some true := by with_unfolding_all rfl
    rw [returned] at ok_eq
    exact Option.some.inj ok_eq
  have failed : whole.ok = false := by
    have ok_eq : (execute [insert, unknown]).1.toOption.map (·.ok) = some false := by
      with_unfolding_all rfl
    rw [executed] at ok_eq
    exact Option.some.inj ok_eq
  obtain ⟨-, -, -, -, -, -, -, -, -, take_eq⟩ :=
    (append [insert] [unknown]).2 Registry.standard_leavesInput result after returned succeeded
  refine ⟨(append [unknown] [insert]).1 ?_, result, after, whole, there, returned, succeeded, executed,
    failed, take_eq whole (congrArg Prod.fst executed)⟩
  intro result returned
  obtain rfl := Except.ok.inj returned
  rfl

end Engine

end Workflow
