import Workflow.Engine.Basic
import Workflow.Proofs.Outcome

/-!
# Endings of executions

When an execution comes to a result, and what the result then says.
-/

namespace Workflow

/-! ## Results -/

/-- A progress without a stop always comes to a result. -/
theorem Result.ofEnding_none (executionId : String) (progress : Progress) :
    Result.ofEnding executionId progress none =
      .ok { executionId, ok := true, output := progress.environment, steps := progress.entries } :=
  rfl

/-- A stop comes to a result exactly when its message is a text. -/
theorem Result.ofEnding_some_eq_ok_iff {executionId : String} {progress : Progress}
    {stop : Execution.Stop} {result : Result} :
    Result.ofEnding executionId progress (some stop) = .ok result ↔
      ∃ message, stop.report.message = .str message ∧
        result = {
          executionId
          ok := false
          output := progress.environment
          steps := progress.entries
          failedStep := some stop.index
          failedStepId := some stop.stepId
          error := some message
          errorDetails := some stop.report.toObject } := by
  simp only [Result.ofEnding]
  cases stop.report.message <;> simp [eq_comm]

/-- Writing a failure to the log keeps no result back: a message that is a text has one. -/
theorem Result.conclude_eq_ok_iff {executionId : String} {progress : Progress}
    {stop : Option Execution.Stop} {result : Result} :
    Result.conclude executionId progress stop = .ok result ↔
      Result.ofEnding executionId progress stop = .ok result := by
  cases stop with
  | none => simp only [conclude, Outcome.mapError_eq_ok_iff]
  | some stop =>
      simp only [conclude]
      split
      · exact Outcome.mapError_eq_ok_iff
      · rename_i cause unwritten
        constructor
        · intro impossible
          cases impossible
        · intro ended
          obtain ⟨message, message_eq, -⟩ := Result.ofEnding_some_eq_ok_iff.1 ended
          rw [message_eq] at unwritten
          cases unwritten

/-- An execution comes to a result exactly when it did not stop or stopped with a message that is a
text. -/
theorem Result.exists_conclude_iff {executionId : String} {progress : Progress}
    {stop : Option Execution.Stop} :
    (∃ result, Result.conclude executionId progress stop = .ok result) ↔
      ∀ reached ∈ stop, ∃ message, reached.report.message = .str message := by
  simp only [Result.conclude_eq_ok_iff]
  cases stop with
  | none => simp [Result.ofEnding_none]
  | some stop =>
      simp only [Result.ofEnding_some_eq_ok_iff, Option.mem_some_iff, forall_eq']
      rw [exists_comm]
      simp

/-- Every result bears the id of its execution and the entries of the progress it was made of. -/
theorem Result.eq_of_ofEnding {executionId : String} {progress : Progress}
    {stop : Option Execution.Stop} {result : Result}
    (ended : Result.ofEnding executionId progress stop = .ok result) :
    result.executionId = executionId ∧ result.steps = progress.entries := by
  cases stop with
  | none =>
      rw [Result.ofEnding_none] at ended
      obtain rfl := Except.ok.inj ended
      exact ⟨rfl, rfl⟩
  | some stop =>
      obtain ⟨message, -, rfl⟩ := Result.ofEnding_some_eq_ok_iff.1 ended
      exact ⟨rfl, rfl⟩

/-! ## Engines -/

namespace Engine

/-- The id of an execution, and the engine once that id is known: without an id, or with an empty
one, an id is drawn. -/
def identify (engine : Engine) (executionId : Option String) : String × Engine :=
  match executionId with
  | some id => if id = "" then engine.drawId else (id, engine)
  | none => engine.drawId

theorem execute_eq (engine : Engine) (steps : List Step) (input headers : Value)
    (executionId : Option String) :
    engine.execute steps input headers executionId =
      (engine.identify executionId).2.executeAs steps input headers
        (engine.identify executionId).1 := by
  cases executionId with
  | none => rfl
  | some id =>
      by_cases empty : id = "" <;> simp only [execute, identify, empty, if_true, if_false]

/-- An execution has a result exactly when headers and input denote objects and its run comes to
one. -/
theorem executeAs_eq_ok_iff {engine after : Engine} {steps : List Step} {input headers : Value}
    {executionId : String} {result : Result} :
    engine.executeAs steps input headers executionId = (.ok result, after) ↔
      ∃ sent bound progress stop scene,
        Pairs.toObject headers = .ok sent ∧ Pairs.toObject input = .ok bound ∧
        Execution.runFrom engine.registry
            { executionId, collaborators := engine.collaborators, headers := sent } 0 steps
            (Execution.start bound) engine.scene = ((progress, stop), scene) ∧
        Result.ofEnding executionId progress stop = .ok result ∧
        after = { engine with scene } := by
  unfold executeAs
  constructor
  · intro returned
    split at returned
    · cases returned
    · cases returned
    · rename_i sent bound sent_eq bound_eq
      obtain ⟨ended, rfl⟩ := Prod.mk.inj returned
      exact ⟨sent, bound, _, _, _, sent_eq, bound_eq, rfl, Result.conclude_eq_ok_iff.1 ended, rfl⟩
  · rintro ⟨sent, bound, progress, stop, scene, sent_eq, bound_eq, run_eq, ended, rfl⟩
    simp only [sent_eq, bound_eq, run_eq, Result.conclude_eq_ok_iff.2 ended]

/-- Knowing the id changes nothing but the number of identifiers that are issued. -/
theorem exists_identify_eq (engine : Engine) (executionId : Option String) :
    ∃ issued, (engine.identify executionId).2 =
      { engine with scene := {
          engine.scene with world := { engine.scene.world with issued } } } := by
  unfold identify
  split
  · split
    · exact ⟨_, rfl⟩
    · exact ⟨engine.scene.world.issued, rfl⟩
  · exact ⟨_, rfl⟩

theorem identify_unchanged (engine : Engine) (executionId : Option String) :
    (engine.identify executionId).2.registry = engine.registry ∧
      (engine.identify executionId).2.collaborators = engine.collaborators := by
  obtain ⟨issued, engine_eq⟩ := engine.exists_identify_eq executionId
  rw [engine_eq]
  exact ⟨rfl, rfl⟩

/-- The request that an execution serves. -/
def request (engine : Engine) (executionId : Option String) (headers : Object) : Request where
  executionId := (engine.identify executionId).1
  collaborators := engine.collaborators
  headers := headers

theorem execute_eq_ok_iff {engine after : Engine} {steps : List Step} {input headers : Value}
    {executionId : Option String} {result : Result} :
    engine.execute steps input headers executionId = (.ok result, after) ↔
      ∃ sent bound progress stop scene,
        Pairs.toObject headers = .ok sent ∧ Pairs.toObject input = .ok bound ∧
        Execution.runFrom engine.registry (engine.request executionId sent) 0 steps
            (Execution.start bound) (engine.identify executionId).2.scene =
          ((progress, stop), scene) ∧
        Result.ofEnding (engine.identify executionId).1 progress stop = .ok result ∧
        after = { (engine.identify executionId).2 with scene } := by
  obtain ⟨registry_eq, collaborators_eq⟩ := identify_unchanged engine executionId
  rw [execute_eq, executeAs_eq_ok_iff]
  simp only [registry_eq, collaborators_eq, request]

/-- An execution concludes the run of its steps. -/
theorem execute_of_run {engine : Engine} {steps : List Step} {input headers : Value}
    {bound sent : Object} (bound_eq : Pairs.toObject input = .ok bound)
    (sent_eq : Pairs.toObject headers = .ok sent) {executionId : Option String}
    {progress : Progress} {stop : Option Execution.Stop} {scene : Scene}
    (run_eq : Execution.runFrom engine.registry (engine.request executionId sent) 0 steps
      (Execution.start bound) (engine.identify executionId).2.scene = ((progress, stop), scene)) :
    engine.execute steps input headers executionId =
      (Result.conclude (engine.identify executionId).1 progress stop,
        { (engine.identify executionId).2 with scene }) := by
  obtain ⟨registry_eq, collaborators_eq⟩ := identify_unchanged engine executionId
  rw [request, ← registry_eq, ← collaborators_eq] at run_eq
  simp only [execute_eq, executeAs, sent_eq, bound_eq, run_eq]

/-- Keeping a run does not touch an execution. -/
theorem executeAs_keepRun (engine : Engine) (run : Run) (steps : List Step) (input headers : Value)
    (executionId : String) :
    (engine.keepRun run).executeAs steps input headers executionId =
      ((engine.executeAs steps input headers executionId).1,
        (engine.executeAs steps input headers executionId).2.keepRun run) := by
  unfold executeAs
  split <;> rfl

/-- An execution changes nothing but the scene of its engine. -/
theorem execute_snd (engine : Engine) (steps : List Step) (input headers : Value)
    (executionId : Option String) :
    (engine.execute steps input headers executionId).2 =
      { engine with scene := (engine.execute steps input headers executionId).2.scene } := by
  obtain ⟨issued, engine_eq⟩ := engine.exists_identify_eq executionId
  rw [execute_eq]
  unfold executeAs
  split <;> rw [engine_eq]

/-! ## Runs -/

/-- A run comes to its end when the execution of its steps has a result, and is then kept with it
and announced. -/
theorem runSteps_eq_ok_iff {engine last : Engine} {steps : List Step} {input headers : Value}
    {graphId : Option String} {run : Run} :
    engine.runSteps steps input headers graphId = (.ok run, last) ↔
      ∃ result after begun,
        engine.execute steps input headers none = (.ok result, after) ∧
        begun = Run.begin engine.drawId.1 graphId engine.drawId.2.scene.world.now ∧
        run = begun.complete result after.scene.world.now ∧
        last = {
          after with
          runs := putKeyed run.id run (putKeyed run.id begun engine.runs)
          scene := after.scene.finish run.id run.status.name } := by
  have executed : engine.execute steps input headers none =
      engine.drawId.2.executeAs steps input headers engine.drawId.1 := rfl
  have unchanged := execute_snd engine steps input headers none
  rw [executed] at unchanged
  rw [executed]
  simp only [runSteps, executeAs_keepRun]
  cases ended : engine.drawId.2.executeAs steps input headers engine.drawId.1 with
  | mk outcome after =>
      rw [ended] at unchanged
      have runs_eq : after.runs = engine.runs := by
        have same := congrArg Engine.runs unchanged
        exact same
      cases outcome with
      | error failure => simp
      | ok result =>
          simp only [keepRun, runs_eq, Prod.mk.injEq, Except.ok.injEq]
          constructor
          · rintro ⟨rfl, rfl⟩
            exact ⟨result, after, _, ⟨rfl, rfl⟩, rfl, rfl, rfl⟩
          · rintro ⟨_, _, _, ⟨rfl, rfl⟩, rfl, rfl, rfl⟩
            exact ⟨rfl, rfl⟩

/-- A run whose execution has no result is kept as it was begun. -/
theorem runSteps_eq_of_error {engine after : Engine} {steps : List Step} {input headers : Value}
    {failure : ExecutionFailure} (graphId : Option String)
    (raised : engine.execute steps input headers none = (.error failure, after)) :
    engine.runSteps steps input headers graphId =
      (.error failure,
        after.keepRun (Run.begin engine.drawId.1 graphId engine.drawId.2.scene.world.now)) := by
  have executed : engine.drawId.2.executeAs steps input headers engine.drawId.1 =
      (.error failure, after) := raised
  simp only [runSteps, executeAs_keepRun, executed]

end Engine

end Workflow
