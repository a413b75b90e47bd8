import Workflow.Proofs.Engine.LeftFold
import Workflow.Proofs.Engine.Marks
import Workflow.Proofs.Graph.CompiledSteps
import Workflow.Proofs.Handler.Access

/-!
# Nodes downstream

A node is executed only after every node that leads to it has finished.  With the built-in handlers,
nothing downstream of an authentication node is executed unless the request was accepted before.
-/

namespace Workflow.Engine

open Execution (advance)

variable {engine after : Engine} {steps : List Step} {input headers : Value}
  {executionId : Option String} {result : Result}

/-- The steps before a position lead an execution to an environment and a world. -/
def Arrives (engine : Engine) (steps : List Step) (input : Value) (executionId : Option String)
    (sent : Object) (position : Nat) (environment : Object) (world : World) : Prop :=
  ∃ bound, Pairs.toObject input = .ok bound ∧
    (steps.take position).foldlM (advance engine.registry (engine.request executionId sent))
        ([("input", .obj bound)], (engine.identify executionId).2.scene.world) =
      .ok (environment, world)

/-- A finished entry holds the value that the handler of its step replied where the steps before it
led. -/
theorem exists_reply_of_finished (leaves : engine.registry.LeavesInput)
    (returned : engine.execute steps input headers executionId = (.ok result, after))
    {i : Nat} {entry : Entry} (found : result.steps[i]? = some entry)
    (finished : entry.phase = .finished) :
    ∃ sent world step, Pairs.toObject headers = .ok sent ∧ steps[i]? = some step ∧
      engine.Arrives steps input executionId sent i entry.environment world ∧
      (Execution.reply engine.registry (engine.request executionId sent) step entry.environment
        world).result = .ok entry.output := by
  obtain ⟨sent, bound, progress, stop, scene, sent_eq, bound_eq, run_eq, ended, rfl⟩ :=
    execute_eq_ok_iff.1 returned
  have fold := Result.isFold_of_runFrom leaves run_eq ended
  obtain ⟨step, world, stepAt, -, folded, -, ends⟩ := fold.entry_at i entry found
  refine ⟨sent, world, step, sent_eq, stepAt, ⟨bound, bound_eq, folded⟩, ?_⟩
  split at ends
  · rename_i value ok
    rw [ok, ends.2]
  · rename_i failure failed
    cases finished.symm.trans ends.1

/-- With the built-in handlers, an authentication step finishes only when the request is accepted,
with the claims as its output. -/
theorem accepted_of_finished (standard : engine.registry = .standard)
    (returned : engine.execute steps input headers executionId = (.ok result, after))
    {i : Nat} {entry : Entry} (found : result.steps[i]? = some entry)
    (finished : entry.phase = .finished) {step : Step} (stepAt : steps[i]? = some step)
    (guards : step.kind = Kind.auth.name) :
    ∃ sent environment world, Pairs.toObject headers = .ok sent ∧
      engine.Arrives steps input executionId sent i environment world ∧
      (engine.request executionId sent).Accepted world entry.output := by
  have leaves : engine.registry.LeavesInput := standard ▸ Registry.standard_leavesInput
  obtain ⟨sent, world, step', sent_eq, stepAt', arrives, replied⟩ :=
    exists_reply_of_finished leaves returned found finished
  obtain rfl : step' = step := Option.some.inj (stepAt'.symm.trans stepAt)
  refine ⟨sent, entry.environment, world, sent_eq, arrives, ?_⟩
  rw [Execution.reply, standard, guards, Registry.standard_find_name] at replied
  exact Handler.accepted_of_authenticate replied

/-- When a node is executed, every node that leads to it was executed before and finished.  When
such a node is an authentication node and the handlers are the built-in ones, the verifier had
accepted the token in the first authorization header by then. -/
theorem execute_downstream (graph : Graph) (steps : List Step)
    (compiled : graph.compile = .ok steps) (engine : Engine) (input headers : Value)
    (executionId : Option String) (result : Result) (after : Engine)
    (returned : engine.execute steps input headers executionId = (.ok result, after))
    (source target : String) (path : graph.Reaches source target) (position : Nat) (step : Step)
    (becomes : graph.Becomes steps target position step) (i : Nat) (entry : Entry)
    (found : result.steps[i]? = some entry) (same : entry.stepId = step.id) :
    ∃ j sourceStep earlier, graph.Becomes steps source j sourceStep ∧ j < i ∧
      result.steps[j]? = some earlier ∧ earlier.stepId = sourceStep.id ∧
      earlier.index < entry.index ∧ earlier.phase = .finished ∧
      (engine.registry = .standard → ∀ guard ∈ graph.nodes, guard.id = source →
        guard.kind = .auth → ∃ sent environment world, Pairs.toObject headers = .ok sent ∧
          engine.Arrives steps input executionId sent j environment world ∧
          (engine.request executionId sent).Accepted world earlier.output) := by
  obtain ⟨entryStep, entryStepAt, index_eq, id_eq, finishedBefore⟩ :=
    entry_of_execute returned found
  have stepAt : steps[position]? = some step := becomes.stepAt
  obtain rfl : i = position :=
    Graph.position_eq_of_id_eq compiled entryStepAt stepAt (id_eq.symm.trans same)
  obtain ⟨j, sourceStep, before, sourceBecomes, kind_eq⟩ := becomes.of_reaches compiled path
  obtain ⟨earlier, earlierAt, finished⟩ := finishedBefore j before
  obtain ⟨earlierStep, earlierStepAt, earlierIndex_eq, earlierId_eq, -⟩ :=
    entry_of_execute returned earlierAt
  obtain rfl : earlierStep = sourceStep :=
    Option.some.inj (earlierStepAt.symm.trans sourceBecomes.stepAt)
  refine ⟨j, earlierStep, earlier, sourceBecomes, before, earlierAt, earlierId_eq, ?_, finished, ?_⟩
  · rw [index_eq, earlierIndex_eq]
    omega
  · intro standard guard member id_eq guards
    have auth : earlierStep.kind = Kind.auth.name := by
      rw [kind_eq guard member id_eq, guards]
    exact accepted_of_finished standard returned earlierAt finished earlierStepAt auth

/-- The node downstream of an authentication node is executed for a token that the verifier knows. -/
theorem execute_downstream_guarded :
    let verifier : Verifier := ⟨fun _ token =>
      if token = "key" then .ok (.obj [("sub", .str "ada")]) else .error (.step (.auth .noBearer))⟩
    let graph : Graph :=
      { nodes := [{ id := "data", kind := .input }, { id := "guard", kind := .auth }],
        edges := [⟨"1", "guard", "data"⟩] }
    let headers : Object := [("AUTHORIZATION", .str "Bearer key")]
    let engine : Engine := { collaborators := { verifier := some verifier } }
    ∃ steps result after entry earlier world, graph.compile = .ok steps ∧
      engine.execute steps .null (.obj headers) (some "first") = (.ok result, after) ∧
      result.steps[1]? = some entry ∧ result.steps[0]? = some earlier ∧
      earlier.phase = .finished ∧
      (engine.request (some "first") headers).Accepted world earlier.output := by
  intro verifier graph headers engine
  have compiled : graph.compile = .ok [⟨"step1", "authMiddleware", [], "currentUser"⟩,
      ⟨"step2", "input", [], "input"⟩] := rfl
  obtain ⟨result, after, entry, returned, found, same⟩ : ∃ result after entry,
      engine.execute [⟨"step1", "authMiddleware", [], "currentUser"⟩,
          ⟨"step2", "input", [], "input"⟩] .null (.obj headers) (some "first") =
        (.ok result, after) ∧ result.steps[1]? = some entry ∧ entry.stepId = "step2" :=
    ⟨_, _, _, rfl, rfl, rfl⟩
  have path : graph.Reaches "guard" "data" :=
    Relation.TransGen.single ⟨⟨"1", "guard", "data"⟩, List.mem_cons_self, rfl, rfl⟩
  obtain ⟨j, sourceStep, earlier, -, before, earlierAt, -, -, finished, guarded⟩ :=
    execute_downstream graph _ compiled engine .null (.obj headers) (some "first") result after
      returned "guard" "data" path 1 ⟨"step2", "input", [], "input"⟩
      ⟨[{ id := "guard", kind := .auth }, { id := "data", kind := .input }], _, rfl, rfl, rfl, rfl⟩
      1 entry found same
  obtain rfl : j = 0 := by omega
  obtain ⟨sent, environment, world, sent_eq, -, accepted⟩ :=
    guarded rfl { id := "guard", kind := .auth } (by simp [graph]) rfl rfl
  obtain rfl : headers = sent := Except.ok.inj sent_eq
  exact ⟨_, result, after, entry, earlier, world, compiled, returned, found, earlierAt, finished,
    accepted⟩

end Workflow.Engine
