import Workflow.Proofs.Engine.Downstream
import Workflow.Proofs.Engine.Operation

/-!
# Histories

An engine's history is made of the operations carried out on it.  What every step of an execution
keeps of the store holds after the execution, whether it fails or not, and so at any point of a
history.
-/

namespace Workflow

open Execution (reply advance)

/-- What every step that is reached keeps of the store holds where a trail ends. -/
theorem Execution.Trail.preserves {registry : Registry Handler} {request : Request}
    {holds : Store → Prop} {index : Nat} {steps : List Step} {environment last : Object}
    {world lastWorld : World} {entries : List Entry} {stop : Option Stop}
    (trail : Trail registry request index steps environment world entries last lastWorld stop)
    (each : ∀ position step here there, steps[position]? = some step →
      (steps.take position).foldlM (advance registry request) (environment, world) =
        .ok (here, there) →
      holds there.store → holds (reply registry request step here there).world.store)
    (begun : holds world.store) : holds lastWorld.store := by
  induction trail with
  | done => exact begun
  | @finish index step steps environment world value entries last lastWorld stop ok rest ih =>
      refine ih ?_ (each 0 step environment world rfl rfl begun)
      intro position other here there otherAt reached
      refine each (position + 1) other here there (by simpa using otherAt) ?_
      rw [List.take_succ_cons, List.foldlM_cons, advance_of_ok ok, Outcome.ok_bind]
      exact reached
  | @fail index step steps environment world failure failed =>
      exact each 0 step environment world rfl rfl begun

namespace Engine

/-- Every step that an execution calls keeps a property of the store. -/
def Keeps (engine : Engine) (holds : Store → Prop) (steps : List Step) (input headers : Value)
    (executionId : Option String) : Prop :=
  ∀ sent position step here there, Pairs.toObject headers = .ok sent →
    steps[position]? = some step →
    engine.Arrives steps input executionId sent position here there → holds there.store →
    holds (reply engine.registry (engine.request executionId sent) step here there).world.store

variable {engine start : Engine} {holds : Store → Prop} {steps : List Step} {input headers : Value}
  {executionId : Option String}

theorem store_identify (engine : Engine) (executionId : Option String) :
    (engine.identify executionId).2.scene.world.store = engine.scene.world.store := by
  obtain ⟨issued, engine_eq⟩ := engine.exists_identify_eq executionId
  rw [engine_eq]

/-- An execution leaves handlers and collaborators as they are. -/
theorem execute_unchanged (engine : Engine) (steps : List Step) (input headers : Value)
    (executionId : Option String) :
    (engine.execute steps input headers executionId).2.registry = engine.registry ∧
      (engine.execute steps input headers executionId).2.collaborators = engine.collaborators := by
  obtain ⟨registry_eq, collaborators_eq⟩ := identify_unchanged engine executionId
  rw [execute_eq, ← registry_eq, ← collaborators_eq]
  unfold executeAs
  split <;> exact ⟨rfl, rfl⟩

/-- What every step that it calls keeps of the store holds after an execution. -/
theorem execute_preserves (leaves : engine.registry.LeavesInput)
    (keeps : engine.Keeps holds steps input headers executionId)
    (begun : holds engine.scene.world.store) :
    holds (engine.execute steps input headers executionId).2.scene.world.store := by
  obtain ⟨registry_eq, collaborators_eq⟩ := identify_unchanged engine executionId
  rw [← store_identify engine executionId] at begun
  cases sent_eq : Pairs.toObject headers with
  | error cause => simpa only [execute_eq, executeAs, sent_eq] using begun
  | ok sent =>
      cases bound_eq : Pairs.toObject input with
      | error cause => simpa only [execute_eq, executeAs, sent_eq, bound_eq] using begun
      | ok bound =>
          obtain ⟨progress, stop, scene, entries, run_eq, -, trail⟩ :=
            Execution.exists_trail_runFrom leaves (engine.request executionId sent) 0 steps
              (Execution.start bound) (engine.identify executionId).2.scene
          rw [execute_of_run bound_eq sent_eq run_eq]
          refine trail.preserves ?_ begun
          intro position step here there stepAt reached
          exact keeps sent position step here there sent_eq stepAt ⟨bound, bound_eq, reached⟩

/-- A run acts on the world as the execution of its steps does. -/
theorem world_runSteps (engine : Engine) (steps : List Step) (input headers : Value)
    (graphId : Option String) :
    (engine.runSteps steps input headers graphId).2.scene.world =
      (engine.execute steps input headers none).2.scene.world := by
  have executed : engine.execute steps input headers none =
      engine.drawId.2.executeAs steps input headers engine.drawId.1 := rfl
  rw [executed]
  simp only [runSteps, executeAs_keepRun]
  cases engine.drawId.2.executeAs steps input headers engine.drawId.1 with
  | mk outcome after => cases outcome <;> rfl

/-- What every step that it calls keeps of the store holds after a run. -/
theorem runSteps_preserves (leaves : engine.registry.LeavesInput)
    (keeps : engine.Keeps holds steps input headers none) (graphId : Option String)
    (begun : holds engine.scene.world.store) :
    holds (engine.runSteps steps input headers graphId).2.scene.world.store := by
  rw [world_runSteps]
  exact execute_preserves leaves keeps begun

/-- What a run leaves of an engine besides its runs and its scene. -/
theorem runSteps_unchanged (engine : Engine) (steps : List Step) (input headers : Value)
    (graphId : Option String) :
    (engine.runSteps steps input headers graphId).2.registry = engine.registry ∧
      (engine.runSteps steps input headers graphId).2.collaborators = engine.collaborators := by
  have executed : engine.execute steps input headers none =
      engine.drawId.2.executeAs steps input headers engine.drawId.1 := rfl
  have unchanged := execute_unchanged engine steps input headers none
  rw [executed] at unchanged
  simp only [runSteps, executeAs_keepRun]
  cases ended : engine.drawId.2.executeAs steps input headers engine.drawId.1 with
  | mk outcome after =>
      rw [ended] at unchanged
      cases outcome <;> exact unchanged

/-! ## Histories -/

/-- The engines that operations lead to, of which those that execute steps are allowed. -/
inductive Reaches (allowed : Engine → List Step → Value → Value → Option String → Prop)
    (start : Engine) : Engine → Prop where
  | start : Reaches allowed start start
  | createGraph {engine : Engine} (reached : Reaches allowed start engine) (graph : Graph) :
      Reaches allowed start (engine.createGraph graph).2
  | publish {engine : Engine} (reached : Reaches allowed start engine) (graphId name : String) :
      Reaches allowed start (engine.publish graphId name).2
  | execute {engine : Engine} (reached : Reaches allowed start engine) {steps : List Step}
      {input headers : Value} {executionId : Option String}
      (allows : allowed engine steps input headers executionId) :
      Reaches allowed start (engine.execute steps input headers executionId).2
  | runSteps {engine : Engine} (reached : Reaches allowed start engine) {steps : List Step}
      {input headers : Value} (graphId : Option String)
      (allows : allowed engine steps input headers none) :
      Reaches allowed start (engine.runSteps steps input headers graphId).2
  | runGraph {engine : Engine} (reached : Reaches allowed start engine) {id : String}
      {stored : StoredGraph} {input headers : Value} (known : engine.graph? id = some stored)
      (allows : allowed engine stored.steps input headers none) :
      Reaches allowed start (engine.runGraph id input headers).2

variable {allowed : Engine → List Step → Value → Value → Option String → Prop}

/-- Handlers and collaborators stay as they are throughout a history. -/
theorem Reaches.unchanged (reached : Reaches allowed start engine) :
    engine.registry = start.registry ∧ engine.collaborators = start.collaborators := by
  induction reached with
  | start => exact ⟨rfl, rfl⟩
  | @createGraph engine reached graph ih =>
      rcases exists_createGraph engine graph with ⟨graphs, kept⟩
      rw [kept]
      exact ih
  | @publish engine reached graphId name ih =>
      rcases exists_publish engine graphId name with ⟨publications, published⟩
      rw [published]
      exact ih
  | @execute engine reached steps input headers executionId allows ih =>
      rcases execute_unchanged engine steps input headers executionId with
        ⟨registry_eq, collaborators_eq⟩
      exact ⟨registry_eq.trans ih.1, collaborators_eq.trans ih.2⟩
  | @runSteps engine reached steps input headers graphId allows ih =>
      rcases runSteps_unchanged engine steps input headers graphId with
        ⟨registry_eq, collaborators_eq⟩
      exact ⟨registry_eq.trans ih.1, collaborators_eq.trans ih.2⟩
  | @runGraph engine reached id stored input headers known allows ih =>
      rcases runSteps_unchanged engine stored.steps input headers (some id) with
        ⟨registry_eq, collaborators_eq⟩
      rw [runGraph_eq known]
      exact ⟨registry_eq.trans ih.1, collaborators_eq.trans ih.2⟩

/-- A property of the store that every allowed execution keeps holds throughout a history. -/
theorem Reaches.preserves (reached : Reaches allowed start engine)
    (leaves : start.registry.LeavesInput)
    (keeps : ∀ engine steps input headers executionId, engine.registry = start.registry →
      engine.collaborators = start.collaborators →
      allowed engine steps input headers executionId →
      engine.Keeps holds steps input headers executionId)
    (begun : holds start.scene.world.store) : holds engine.scene.world.store := by
  -- The last three cases are executions, in an engine that the history has not changed otherwise.
  induction reached with
  | start => exact begun
  | @createGraph engine reached graph ih =>
      rcases exists_createGraph engine graph with ⟨graphs, kept⟩
      rw [kept]
      exact ih
  | @publish engine reached graphId name ih =>
      rcases exists_publish engine graphId name with ⟨publications, published⟩
      rw [published]
      exact ih
  | @execute engine reached steps input headers executionId allows ih =>
      rcases reached.unchanged with ⟨registry_eq, collaborators_eq⟩
      apply execute_preserves (registry_eq ▸ leaves) _ ih
      exact keeps engine steps input headers executionId registry_eq collaborators_eq allows
  | @runSteps engine reached steps input headers graphId allows ih =>
      rcases reached.unchanged with ⟨registry_eq, collaborators_eq⟩
      apply runSteps_preserves (registry_eq ▸ leaves) _ graphId ih
      exact keeps engine steps input headers none registry_eq collaborators_eq allows
  | @runGraph engine reached id stored input headers known allows ih =>
      rcases reached.unchanged with ⟨registry_eq, collaborators_eq⟩
      rw [runGraph_eq known]
      apply runSteps_preserves (registry_eq ▸ leaves) _ (some id) ih
      exact keeps engine stored.steps input headers none registry_eq collaborators_eq allows

end Engine

end Workflow
