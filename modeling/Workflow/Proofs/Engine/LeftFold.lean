import Workflow.Proofs.Engine.Ending
import Workflow.Proofs.Engine.Trail
import Workflow.Proofs.Value.Fields

/-!
# Executions as left folds

The result of an execution is read off the left fold of its steps: every entry shows the environment
that the steps before it made, and the result is that of the whole fold or of the first step at which
it stops.
-/

namespace Workflow

open Execution (advance bindOutputs runFrom)

/-- A result, with the world it leaves, is that of the left fold of steps that stops at the first
failure. -/
structure Result.IsFold (registry : Registry Handler) (request : Request) (steps : List Step)
    (environment : Object) (world : World) (result : Result) (lastWorld : World) : Prop where
  /-- An entry is about the step at its position, shows the environment that the fold has there,
  which binds the outputs of the entries before it, and ends as the reply to the step did. -/
  entry_at : ∀ (i : Nat) (entry : Entry), result.steps[i]? = some entry →
    ∃ step here, steps[i]? = some step ∧ entry.Records i step ∧
      (steps.take i).foldlM (advance registry request) (environment, world) =
        .ok (entry.environment, here) ∧
      entry.environment = bindOutputs environment ((steps.zip result.steps).take i) ∧
      match (Execution.reply registry request step entry.environment here).result with
      | .ok value => entry.phase = .finished ∧ entry.output = value
      | .error failure => entry.phase = .error ∧ entry.error = some failure.report.toObject
  /-- When no step fails, every step is finished and the output binds all outputs. -/
  of_finished : ∀ (last : Object) (there : World),
    steps.foldlM (advance registry request) (environment, world) = .ok (last, there) →
      result.ok = true ∧ result.steps.length = steps.length ∧
      (∀ entry ∈ result.steps, entry.phase = .finished) ∧
      result.output = last ∧ last = bindOutputs environment (steps.zip result.steps) ∧
      result.failedStep = none ∧ result.failedStepId = none ∧ result.errorDetails = none ∧
      lastWorld = there
  /-- When a step is the first to fail, the steps before it are finished, the last entry is that of
  the failure, and the output is the environment in which the step failed. -/
  of_failed : ∀ (k : Nat) (step : Step) (before : Object) (here : World) (failure : Failure)
    (there : World), steps[k]? = some step →
    (steps.take k).foldlM (advance registry request) (environment, world) = .ok (before, here) →
    advance registry request (before, here) step = .error (failure, there) →
      result.ok = false ∧ result.steps.length = k + 1 ∧
      (∀ i < k, ∃ entry, result.steps[i]? = some entry ∧ entry.phase = .finished) ∧
      (∃ entry, result.steps[k]? = some entry ∧ entry.phase = .error ∧
        entry.error = some failure.report.toObject ∧ entry.error = result.errorDetails ∧
        entry.environment = result.output) ∧
      result.failedStep = some k ∧ result.failedStepId = some step.id ∧
      result.output = before ∧ lastWorld = there

/-! ## The first failure -/

namespace Execution

variable {registry : Registry Handler} {request : Request} {steps : List Step}
  {start : Object × World}

/-- A fold that has reached a step that fails stops with that failure. -/
theorem foldlM_advance_of_failed {k : Nat} {step : Step} {state : Object × World}
    {ending : Failure × World} (stepAt : steps[k]? = some step)
    (reached : (steps.take k).foldlM (advance registry request) start = .ok state)
    (failed : advance registry request state step = .error ending) :
    steps.foldlM (advance registry request) start = .error ending := by
  obtain ⟨inside, rfl⟩ := List.getElem?_eq_some_iff.1 stepAt
  have split : steps = steps.take k ++ steps[k] :: steps.drop (k + 1) := by
    rw [← List.drop_eq_getElem_cons inside, List.take_append_drop]
  rw [split, List.foldlM_append, reached, Outcome.ok_bind, List.foldlM_cons, failed,
    Outcome.error_bind]

/-- A fold that gets past a position does not fail there. -/
theorem not_failed_of_reached {k later : Nat} {step : Step} {state last : Object × World}
    {ending : Failure × World} (stepAt : steps[k]? = some step) (before : k < later)
    (reached : (steps.take k).foldlM (advance registry request) start = .ok state)
    (passed : (steps.take later).foldlM (advance registry request) start = .ok last) :
    advance registry request state step ≠ .error ending := by
  intro failed
  have stepAt' : (steps.take later)[k]? = some step := by
    rwa [List.getElem?_take_of_lt before]
  have reached' : ((steps.take later).take k).foldlM (advance registry request) start =
      .ok state := by
    rwa [List.take_take, Nat.min_eq_left (Nat.le_of_lt before)]
  rw [foldlM_advance_of_failed stepAt' reached' failed] at passed
  cases passed

/-- At most one step is the first to fail. -/
theorem first_failed_unique {k k' : Nat} {step step' : Step} {state state' : Object × World}
    {ending ending' : Failure × World} (stepAt : steps[k]? = some step)
    (reached : (steps.take k).foldlM (advance registry request) start = .ok state)
    (failed : advance registry request state step = .error ending)
    (stepAt' : steps[k']? = some step')
    (reached' : (steps.take k').foldlM (advance registry request) start = .ok state')
    (failed' : advance registry request state' step' = .error ending') :
    k = k' ∧ step = step' ∧ state = state' ∧ ending = ending' := by
  rcases Nat.lt_trichotomy k k' with before | rfl | before
  · exact absurd failed (not_failed_of_reached stepAt before reached reached')
  · obtain rfl := Option.some.inj (stepAt.symm.trans stepAt')
    obtain rfl := Except.ok.inj (reached.symm.trans reached')
    exact ⟨rfl, rfl, rfl, Except.error.inj (failed.symm.trans failed')⟩
  · exact absurd failed' (not_failed_of_reached stepAt' before reached' reached)

/-- A run that stopped does not depend on the steps after the one at which it did. -/
theorem runFrom_take_append {index : Nat} {progress after : Progress} {scene last : Scene}
    {stop : Stop}
    (run_eq : runFrom registry request index steps progress scene = ((after, some stop), last)) :
    ∃ k, stop.index = index + k ∧ ∀ others : List Step,
      runFrom registry request index (steps.take (k + 1) ++ others) progress scene =
        ((after, some stop), last) := by
  induction steps generalizing index progress scene with
  | nil => simp [runFrom] at run_eq
  | cons step rest ih =>
      rw [runFrom] at run_eq
      split at run_eq
      · rename_i next nextScene ran
        obtain ⟨k, index_eq, unchanged⟩ := ih run_eq
        refine ⟨k + 1, by omega, ?_⟩
        intro others
        rw [List.take_succ_cons, List.cons_append, runFrom, ran]
        exact unchanged others
      · rename_i stopped report lastScene ran
        refine ⟨0, ?_, ?_⟩
        · have stop_eq : (⟨index, step.id, report⟩ : Stop) = stop := by
            simpa using congrArg (fun outcome => outcome.1.2) run_eq
          rw [← stop_eq, Nat.add_zero]
        · intro others
          rw [List.take_succ_cons, List.cons_append, runFrom, ran]
          exact run_eq

end Execution

/-! ## Results -/

/-- The result of a run of steps is that of their fold. -/
theorem Result.isFold_of_runFrom {registry : Registry Handler} (leaves : registry.LeavesInput)
    {request : Request} {steps : List Step} {input : Object} {scene last : Scene}
    {progress : Progress} {stop : Option Execution.Stop} {executionId : String} {result : Result}
    (run_eq : runFrom registry request 0 steps (Execution.start input) scene =
      ((progress, stop), last))
    (ended : Result.ofEnding executionId progress stop = .ok result) :
    result.IsFold registry request steps [("input", .obj input)] scene.world last.world := by
  have trail := Execution.trail_of_runFrom leaves run_eq
  have each := fun (i : Nat) (entry : Entry) (found : progress.entries[i]? = some entry) =>
    trail.entry_at found
  simp only [Nat.zero_add] at each
  cases stop with
  | none =>
      rw [Result.ofEnding_none] at ended
      obtain rfl := Except.ok.inj ended
      obtain ⟨folded, length_eq, finished, bound⟩ := trail.of_not_stopped
      constructor
      · exact each
      · intro last' there reached
        obtain ⟨rfl, rfl⟩ := Prod.mk.inj (Except.ok.inj (folded.symm.trans reached))
        exact ⟨rfl, length_eq, finished, rfl, bound, rfl, rfl, rfl, rfl⟩
      · intro k step before here failure there stepAt reached failed
        have stopped := Execution.foldlM_advance_of_failed stepAt reached failed
        cases folded.symm.trans stopped
  | some stop =>
      obtain ⟨message, -, rfl⟩ := Result.ofEnding_some_eq_ok_iff.1 ended
      obtain ⟨k, step, here, failure, stepAt, reached, failed, rfl, length_eq, finished, lastAt⟩ :=
        trail.of_stopped
      constructor
      · exact each
      · intro last' there passed
        have stopped := Execution.foldlM_advance_of_failed stepAt reached failed
        cases passed.symm.trans stopped
      · intro k' step' before' here' failure' there' stepAt' reached' failed'
        obtain ⟨rfl, rfl, state_eq, ending_eq⟩ := Execution.first_failed_unique stepAt reached failed
          stepAt' reached' failed'
        obtain ⟨rfl, rfl⟩ := Prod.mk.inj state_eq
        obtain ⟨rfl, rfl⟩ := Prod.mk.inj ending_eq
        refine ⟨rfl, length_eq, finished, ⟨_, lastAt, rfl, rfl, rfl, rfl⟩, ?_, rfl, rfl, rfl⟩
        rw [Nat.zero_add]

/-! ## Engines -/

namespace Engine

/-- The result of an execution is that of the fold over the object that its input denotes. -/
theorem isFold_of_execute {engine after : Engine} (leaves : engine.registry.LeavesInput)
    {steps : List Step} {input headers : Value} {bound sent : Object}
    (bound_eq : Pairs.toObject input = .ok bound) (sent_eq : Pairs.toObject headers = .ok sent)
    {executionId : Option String} {result : Result}
    (returned : engine.execute steps input headers executionId = (.ok result, after)) :
    result.IsFold engine.registry (engine.request executionId sent) steps
      [("input", .obj bound)] (engine.identify executionId).2.scene.world after.scene.world := by
  obtain ⟨held, start, progress, stop, scene, held_eq, start_eq, run_eq, ended, rfl⟩ :=
    execute_eq_ok_iff.1 returned
  obtain rfl := Except.ok.inj (bound_eq.symm.trans start_eq)
  obtain rfl := Except.ok.inj (sent_eq.symm.trans held_eq)
  exact Result.isFold_of_runFrom leaves run_eq ended

/-- The result of an execution whose handlers leave the object bound to `input` alone is that of the
left fold of its steps over the object that the input denotes, and an execution that failed does not
depend on the steps after the one that did. -/
theorem execute_isFold (engine : Engine) (leaves : engine.registry.LeavesInput) (steps : List Step)
    (input headers : Value) (executionId : Option String) (result : Result) (after : Engine)
    (returned : engine.execute steps input headers executionId = (.ok result, after)) :
    ∃ bound sent, Pairs.toObject input = .ok bound ∧ Pairs.toObject headers = .ok sent ∧
      (∀ fields, input = .obj fields → (Object.identities fields).Nodup → bound = fields) ∧
      result.executionId = (engine.identify executionId).1 ∧
      result.IsFold engine.registry (engine.request executionId sent) steps
        [("input", .obj bound)] (engine.identify executionId).2.scene.world after.scene.world ∧
      ∀ k, result.failedStep = some k → ∀ others,
        engine.execute (steps.take (k + 1) ++ others) input headers executionId =
          (.ok result, after) := by
  obtain ⟨sent, bound, progress, stop, scene, sent_eq, bound_eq, run_eq, ended, rfl⟩ :=
    execute_eq_ok_iff.1 returned
  refine ⟨bound, sent, bound_eq, sent_eq, ?_, (Result.eq_of_ofEnding ended).1,
    Result.isFold_of_runFrom leaves run_eq ended, ?_⟩
  · rintro fields rfl single
    exact Except.ok.inj (bound_eq.symm.trans (Pairs.toObject_obj single))
  · intro k failed others
    cases stop with
    | none =>
        rw [Result.ofEnding_none] at ended
        cases (Except.ok.inj ended) ▸ failed
    | some stop =>
        obtain ⟨position, index_eq, unchanged⟩ := Execution.runFrom_take_append run_eq
        obtain rfl : position = k := by
          obtain ⟨message, -, rfl⟩ := Result.ofEnding_some_eq_ok_iff.1 ended
          simpa [index_eq] using failed
        exact execute_eq_ok_iff.2
          ⟨sent, bound, progress, some stop, scene, sent_eq, bound_eq, unchanged others, ended, rfl⟩

/-- A step of an unknown kind ends the execution: the steps before it are finished and the one after
it is not called. -/
theorem execute_isFold_unknownKind :
    let step (id kind output : String) : Step := { id, kind, output }
    let steps := [step "step1" "input" "input", step "step2" "teleport" "there",
      step "step3" "dbInsert" "createdRecord"]
    let fields : Object := [("flag", .bool true)]
    ∃ result after,
      ({} : Engine).execute steps (.obj fields) .null (some "first") = (.ok result, after) ∧
        result.ok = false ∧ result.steps.length = 2 ∧ result.failedStep = some 1 ∧
        result.failedStepId = some "step2" ∧ result.output = ([("input", .obj fields)] : Object) := by
  intro step steps fields
  obtain ⟨result, after, returned⟩ : ∃ result after,
      ({} : Engine).execute steps (.obj fields) .null (some "first") = (.ok result, after) :=
    ⟨_, _, rfl⟩
  obtain ⟨bound, sent, bound_eq, sent_eq, input_eq, -, fold, -⟩ :=
    execute_isFold {} Registry.standard_leavesInput steps (.obj fields) .null (some "first") result
      after returned
  obtain rfl : bound = fields := input_eq fields rfl (by decide)
  obtain ⟨failed, length_eq, -, -, position, id_eq, output_eq, -⟩ :=
    fold.of_failed 1 (step "step2" "teleport" "there") [("input", .obj fields)] {}
      (.step (.unknownKind "teleport" Registry.standard.kinds)) {} rfl rfl rfl
  exact ⟨result, after, returned, failed, length_eq, position, id_eq, output_eq⟩

end Engine

end Workflow
