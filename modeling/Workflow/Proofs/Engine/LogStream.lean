import Workflow.Proofs.Engine.Ending
import Workflow.Proofs.Engine.Keyed
import Workflow.Proofs.Engine.Trail
import Workflow.Proofs.Trace.Broadcast

/-!
# The log stream of runs

A run is told twice: by the entries of its result, and by those that the broadcaster keeps under its
id.  The broadcaster is also told when each step begins, and at last the status of the run.
-/

namespace Workflow

/-- The entry that tells of the beginning of the step that another entry tells of. -/
def Entry.opening (entry : Entry) : Entry :=
  { entry with phase := .started, output := .null, error := none, duration := none }

/-- An entry tells of the beginning of the step that another entry tells of. -/
structure Entry.Opens (opening entry : Entry) : Prop where
  phase_eq : opening.phase = .started
  index_eq : opening.index = entry.index
  stepId_eq : opening.stepId = entry.stepId
  kind_eq : opening.kind = entry.kind
  fields_eq : opening.fields = entry.fields
  environment_eq : opening.environment = entry.environment
  output_eq : opening.output = .null
  error_eq : opening.error = none
  duration_eq : opening.duration = none

theorem Entry.opens_opening (entry : Entry) : entry.opening.Opens entry :=
  ⟨rfl, rfl, rfl, rfl, rfl, rfl, rfl, rfl, rfl⟩

/-- Entries, each after the one that tells of the beginning of its step. -/
def Entry.stream (entries : List Entry) : List Entry :=
  entries.flatMap fun entry => [entry.opening, entry]

theorem Entry.length_stream (entries : List Entry) :
    (stream entries).length = 2 * entries.length := by
  simp [stream, List.map_const', Nat.mul_comm]

theorem Entry.getElem?_stream (entries : List Entry) (i : Nat) :
    (stream entries)[2 * i]? = entries[i]?.map opening ∧
      (stream entries)[2 * i + 1]? = entries[i]? := by
  induction entries generalizing i with
  | nil => simp [stream]
  | cons entry rest ih =>
      cases i with
      | zero => simp [stream]
      | succ i => simpa [stream, Nat.mul_add] using ih i

/-! ## Executions -/

namespace Execution

variable {registry : Registry Handler}

theorem recordBoth_broadcaster {scene : Scene} {hub : Broadcaster}
    (sink_eq : scene.sink = .broadcaster hub) (request : Request) (index : Nat) (step : Step)
    (progress : Progress) {ending : Entry}
    (opens : ending.opening = progress.entry index step .started scene.world.now) :
    recordBoth request index step progress scene ending =
      .broadcaster (hub.recordAll request.executionId [ending.opening, ending]) := by
  rw [recordBoth, sink_eq, opens]
  rfl

/-- A run tells the broadcaster of every entry that it adds, after the beginning of its step. -/
theorem sink_runFrom (leaves : registry.LeavesInput) (request : Request) (index : Nat)
    (steps : List Step) (progress : Progress) {scene : Scene} {hub : Broadcaster}
    (sink_eq : scene.sink = .broadcaster hub) :
    ∃ (after : Progress) (stop : Option Stop) (last : Scene) (entries : List Entry),
      runFrom registry request index steps progress scene = ((after, stop), last) ∧
      after.entries = progress.entries ++ entries ∧
      last.sink = .broadcaster (hub.recordAll request.executionId (Entry.stream entries)) := by
  induction steps generalizing index progress scene hub with
  | nil => exact ⟨progress, none, scene, [], rfl, by simp, sink_eq⟩
  | cons step rest ih =>
      rw [runFrom]
      cases outcome : (reply registry request step progress.environment scene.world).result with
      | ok value =>
          rw [runStep_of_ok leaves index outcome]
          let finished := finishedEntry index step progress.environment scene.world.now value
          have recorded : recordBoth request index step progress scene finished = _ :=
            recordBoth_broadcaster sink_eq request index step progress rfl
          obtain ⟨after, stop, last, entries, run_eq, entries_eq, last_eq⟩ :=
            @ih (index + 1) (progress.bind step.output value finished)
              ⟨(reply registry request step progress.environment scene.world).world, _⟩ _ recorded
          refine ⟨after, stop, last, finished :: entries, run_eq, ?_, last_eq⟩
          rw [entries_eq]
          simp [finished, Progress.bind]
      | error failure =>
          rw [runStep_of_error leaves index outcome]
          exact ⟨_, _, _, [_], rfl, rfl,
            recordBoth_broadcaster sink_eq request index step progress rfl⟩

end Execution

namespace Engine

/-- An execution tells the broadcaster of the entries of its result. -/
theorem sink_execute {engine after : Engine} (leaves : engine.registry.LeavesInput)
    {steps : List Step} {input headers : Value} {executionId : Option String} {result : Result}
    {hub : Broadcaster} (sink_eq : engine.scene.sink = .broadcaster hub)
    (returned : engine.execute steps input headers executionId = (.ok result, after)) :
    after.scene.sink =
      .broadcaster (hub.recordAll (engine.identify executionId).1 (Entry.stream result.steps)) := by
  obtain ⟨sent, bound, progress, stop, scene, -, -, run_eq, ended, rfl⟩ :=
    execute_eq_ok_iff.1 returned
  have identified : (engine.identify executionId).2.scene.sink = .broadcaster hub := by
    obtain ⟨issued, engine_eq⟩ := engine.exists_identify_eq executionId
    rw [engine_eq, ← sink_eq]
  obtain ⟨after, ending, last, entries, ran, entries_eq, told⟩ :=
    Execution.sink_runFrom leaves (engine.request executionId sent) 0 steps (Execution.start bound)
      identified
  obtain ⟨⟨rfl, rfl⟩, rfl⟩ : (progress = after ∧ stop = ending) ∧ scene = last := by
    simpa using run_eq.symm.trans ran
  rw [(Result.eq_of_ofEnding ended).2, entries_eq]
  exact told

/-- A run under an id that is not taken is kept after the others, and the broadcaster is told of its
entries and then of its status. -/
theorem runSteps_streams {engine after : Engine} (leaves : engine.registry.LeavesInput)
    {steps : List Step} {input headers : Value} {graphId : Option String} {run : Run}
    {hub : Broadcaster} (sink_eq : engine.scene.sink = .broadcaster hub)
    (fresh : engine.drawId.1 ∉ engine.runs.map (·.1))
    (returned : engine.runSteps steps input headers graphId = (.ok run, after)) :
    ∃ result, run.id = engine.drawId.1 ∧ run.result = some result ∧
      run.status = (if result.ok then .completed else .failed) ∧
      after.registry = engine.registry ∧ after.runs = engine.runs ++ [(run.id, run)] ∧
      after.scene.sink =
        .broadcaster (hub.tell run.id (Entry.stream result.steps) run.status.name) := by
  obtain ⟨result, there, begun, executed, rfl, rfl, rfl⟩ := runSteps_eq_ok_iff.1 returned
  refine ⟨result, rfl, rfl, rfl, ?_, ?_, ?_⟩
  · have unchanged := congrArg Engine.registry (execute_snd engine steps input headers none)
    rwa [executed] at unchanged
  · exact (congrArg _ (putKeyed_of_not_mem _ fresh)).trans (putKeyed_concat _ _ fresh)
  · dsimp only [Scene.finish]
    rw [sink_execute leaves sink_eq executed]
    rfl

end Engine

end Workflow
