import Workflow.Proofs.Engine.Downstream
import Workflow.Proofs.Handler.Wording

/-!
# Executions that return

With the built-in handlers, and collaborators whose failures have words, an execution comes to a
result whatever its steps do, and a run to its end, unless a transport refuses a mail without words.
-/

namespace Workflow

namespace Execution

variable {registry : Registry Handler} {request : Request}

/-- When no step fails, every step that is reached replies in words. -/
theorem inWords_of_finished {steps : List Step} {start last : Object × World}
    (finished : steps.foldlM (advance registry request) start = .ok last) {position : Nat}
    {step : Step} {here : Object} {there : World} (stepAt : steps[position]? = some step)
    (reached : (steps.take position).foldlM (advance registry request) start =
      .ok (here, there)) :
    Outcome.InWords (reply registry request step here there).result := by
  intro failure failed
  have stopped := foldlM_advance_of_failed stepAt reached (advance_of_error failed)
  cases finished.symm.trans stopped

/-- When the first step to fail does so in words, every step that is reached replies in words. -/
theorem inWords_of_failed {steps : List Step} {start state : Object × World} {k : Nat}
    {step : Step} {failure : Failure} {last : World} (stepAt : steps[k]? = some step)
    (reached : (steps.take k).foldlM (advance registry request) start = .ok state)
    (failed : advance registry request state step = .error (failure, last))
    (words : failure.HasWords) {position : Nat} {other : Step} {here : Object} {there : World}
    (otherAt : steps[position]? = some other)
    (arrived : (steps.take position).foldlM (advance registry request) start =
      .ok (here, there)) :
    Outcome.InWords (reply registry request other here there).result := by
  -- A reply that is a failure stops the fold, and it can only stop at its first failure.
  intro failure' failed'
  obtain ⟨-, -, -, ending_eq⟩ :=
    first_failed_unique stepAt reached failed otherAt arrived (advance_of_error failed')
  exact (Prod.mk.inj ending_eq).1 ▸ words

/-- A run stops in words, if at all, exactly when every step that it reaches replies in words. -/
theorem Trail.stop_inWords_iff {steps : List Step} {environment last : Object}
    {world lastWorld : World} {entries : List Entry} {stop : Option Stop}
    (trail : Trail registry request 0 steps environment world entries last lastWorld stop) :
    (∀ reached ∈ stop, ∃ words, reached.report.message = .str words) ↔
      ∀ position step here there, steps[position]? = some step →
        (steps.take position).foldlM (advance registry request) (environment, world) =
          .ok (here, there) →
        Outcome.InWords (reply registry request step here there).result := by
  cases stop with
  | none =>
      simp only [Option.mem_def, reduceCtorEq, false_implies, implies_true, true_iff]
      intro position step here there stepAt reached
      exact inWords_of_finished trail.of_not_stopped.1 stepAt reached
  | some stop =>
      obtain ⟨k, step, here, failure, stepAt, reached, failed, rfl, -⟩ := trail.of_stopped
      simp only [Option.mem_some_iff, forall_eq']
      constructor
      · intro words position other place there otherAt arrived
        exact inWords_of_failed stepAt reached failed words otherAt arrived
      · intro each
        exact each k step last here stepAt reached failure (result_of_advance_error failed)

/-- With the built-in handlers, the reply to a step is a failure without words exactly when it is a
mail step whose mail is refused without words. -/
theorem reply_mute_iff (request : Request) (worded : request.collaborators.Worded) (step : Step)
    (environment : Object) (world : World) :
    ¬ Outcome.InWords (reply .standard request step environment world).result ↔
      step.kind = Kind.email.name ∧
        Handler.IsMutelyRefused step.fields environment request world := by
  unfold reply
  cases found : Registry.standard.find step.kind with
  | ok handler =>
      obtain ⟨kind, name_eq, rfl⟩ := Registry.standard_find_eq_ok_iff.1 found
      have known : kind = .email ↔ step.kind = Kind.email.name := by
        rw [← name_eq]
        cases kind <;> decide
      rw [← known]
      exact Handler.mute_iff_of_kind step.fields environment request world worded kind
  | error error =>
      have unknown : step.kind ≠ Kind.email.name := by
        intro known
        rw [known, Registry.standard_find_name] at found
        cases found
      obtain rfl := Registry.find_eq_error found
      simp only [unknown, false_and, iff_false, Classical.not_not]
      exact .error ⟨_, rfl⟩

end Execution

/-- A run that has come to a result is over. -/
theorem Run.isFinished_of_status {run : Run} {result : Result}
    (status_eq : run.status = (if result.ok then .completed else .failed)) :
    run.isFinished = true := by
  unfold Run.isFinished
  rw [status_eq]
  cases result.ok <;> rfl

namespace Engine

variable {engine : Engine} {steps : List Step} {input headers : Value}

/-- An execution calls a mail step whose mail is refused without words. -/
def IsMutelyRefused (engine : Engine) (steps : List Step) (input : Value)
    (executionId : Option String) (sent : Object) : Prop :=
  ∃ position step environment world, steps[position]? = some step ∧
    engine.Arrives steps input executionId sent position environment world ∧
    step.kind = Kind.email.name ∧
    Handler.IsMutelyRefused step.fields environment (engine.request executionId sent) world

/-- An execution has a result exactly when every step that it reaches replies in words. -/
theorem exists_execute_iff_inWords (leaves : engine.registry.LeavesInput) {bound sent : Object}
    (bound_eq : Pairs.toObject input = .ok bound) (sent_eq : Pairs.toObject headers = .ok sent)
    (executionId : Option String) :
    (∃ result after, engine.execute steps input headers executionId = (.ok result, after)) ↔
      ∀ position step here there, steps[position]? = some step →
        (steps.take position).foldlM
            (Execution.advance engine.registry (engine.request executionId sent))
            ([("input", .obj bound)], (engine.identify executionId).2.scene.world) =
          .ok (here, there) →
        Outcome.InWords (Execution.reply engine.registry (engine.request executionId sent) step
          here there).result := by
  obtain ⟨progress, stop, scene, entries, run_eq, -, trail⟩ :=
    Execution.exists_trail_runFrom leaves (engine.request executionId sent) 0 steps
      (Execution.start bound) (engine.identify executionId).2.scene
  simp only [execute_of_run bound_eq sent_eq run_eq, Prod.mk.injEq, exists_and_left, exists_eq',
    and_true]
  rw [Result.exists_conclude_iff]
  exact trail.stop_inWords_iff

/-- An execution has a result exactly when no mail is refused without words. -/
theorem exists_execute_iff (standard : engine.registry = .standard)
    (worded : engine.collaborators.Worded) {bound sent : Object}
    (bound_eq : Pairs.toObject input = .ok bound) (sent_eq : Pairs.toObject headers = .ok sent)
    (executionId : Option String) :
    (∃ result after, engine.execute steps input headers executionId = (.ok result, after)) ↔
      ¬ engine.IsMutelyRefused steps input executionId sent := by
  have leaves : engine.registry.LeavesInput := standard ▸ Registry.standard_leavesInput
  have mute (step : Step) (here : Object) (there : World) :=
    Execution.reply_mute_iff (engine.request executionId sent) worded step here there
  rw [← standard] at mute
  rw [exists_execute_iff_inWords leaves bound_eq sent_eq]
  constructor
  · rintro words ⟨position, step, here, there, stepAt, ⟨start, start_eq, arrived⟩, refused⟩
    obtain rfl := Except.ok.inj (bound_eq.symm.trans start_eq)
    exact (mute step here there).2 refused (words position step here there stepAt arrived)
  · intro spared position step here there stepAt arrived
    by_contra silent
    exact spared ⟨position, step, here, there, stepAt, ⟨bound, bound_eq, arrived⟩,
      (mute step here there).1 silent⟩

/-! ## Runs -/

theorem run?_keepRun (engine : Engine) (run : Run) :
    (engine.keepRun run).run? run.id = some run := by
  rw [run?, keepRun, keyed_putKeyed, if_pos rfl]

/-- A run whose execution has a result is kept with it, and acts on the world as the execution
does. -/
theorem runSteps_of_ok {result : Result} {after : Engine} (graphId : Option String)
    (returned : engine.execute steps input headers none = (.ok result, after)) :
    ∃ run last, engine.runSteps steps input headers graphId = (.ok run, last) ∧
      last.run? engine.drawId.1 = some run ∧ run.result = some result ∧
      run.status = (if result.ok then .completed else .failed) ∧
      last.scene.world = after.scene.world := by
  let begun := Run.begin engine.drawId.1 graphId engine.drawId.2.scene.world.now
  let run := begun.complete result after.scene.world.now
  refine ⟨run, _, runSteps_eq_ok_iff.2 ⟨result, after, begun, returned, rfl, rfl, rfl⟩, ?_, rfl, rfl,
    rfl⟩
  have id_eq : run.id = engine.drawId.1 := rfl
  rw [run?, id_eq, keyed_putKeyed, if_pos rfl]

/-- A run whose execution has no result is kept as it was begun. -/
theorem runSteps_of_error {failure : ExecutionFailure} {after : Engine} (graphId : Option String)
    (raised : engine.execute steps input headers none = (.error failure, after)) :
    ∃ run, (engine.runSteps steps input headers graphId).1 = .error failure ∧
      (engine.runSteps steps input headers graphId).2.run? engine.drawId.1 = some run ∧
      run.status = .running ∧ run.result = none := by
  let begun := Run.begin engine.drawId.1 graphId engine.drawId.2.scene.world.now
  rw [runSteps_eq_of_error graphId raised]
  exact ⟨begun, rfl, run?_keepRun after begun, rfl, rfl⟩

/-- A run whose steps all finish is completed. -/
theorem runSteps_of_finished (leaves : engine.registry.LeavesInput) {bound sent : Object}
    (bound_eq : Pairs.toObject input = .ok bound) (sent_eq : Pairs.toObject headers = .ok sent)
    (graphId : Option String) {last : Object} {there : World}
    (finished : steps.foldlM (Execution.advance engine.registry (engine.request none sent))
      ([("input", .obj bound)], engine.drawId.2.scene.world) = .ok (last, there)) :
    ∃ run result after, engine.runSteps steps input headers graphId = (.ok run, after) ∧
      run.result = some result ∧ run.status = .completed ∧ after.scene.world = there := by
  obtain ⟨result, executed, returned⟩ :=
    (exists_execute_iff_inWords leaves bound_eq sent_eq none).2 fun _ _ _ _ stepAt reached =>
      Execution.inWords_of_finished finished stepAt reached
  have fold := isFold_of_execute leaves bound_eq sent_eq returned
  obtain ⟨succeeded, -, -, -, -, -, -, -, world_eq⟩ := fold.of_finished last there finished
  obtain ⟨run, after, run_eq, -, result_eq, status_eq, last_eq⟩ := runSteps_of_ok graphId returned
  rw [succeeded] at status_eq
  exact ⟨run, result, after, run_eq, result_eq, status_eq, last_eq.trans world_eq⟩

/-- A run in which a step is the first to fail, and does so in words, fails with the report of that
failure. -/
theorem runSteps_of_failed (leaves : engine.registry.LeavesInput) {bound sent : Object}
    (bound_eq : Pairs.toObject input = .ok bound) (sent_eq : Pairs.toObject headers = .ok sent)
    (graphId : Option String) {k : Nat} {step : Step} {before : Object} {here there : World}
    {failure : Failure} (stepAt : steps[k]? = some step)
    (reached : (steps.take k).foldlM
        (Execution.advance engine.registry (engine.request none sent))
        ([("input", .obj bound)], engine.drawId.2.scene.world) = .ok (before, here))
    (failed : Execution.advance engine.registry (engine.request none sent) (before, here) step =
      .error (failure, there))
    (words : failure.HasWords) :
    ∃ run result after, engine.runSteps steps input headers graphId = (.ok run, after) ∧
      run.result = some result ∧ run.status = .failed ∧ result.failedStep = some k ∧
      result.errorDetails = some failure.report.toObject ∧ after.scene.world = there := by
  obtain ⟨result, executed, returned⟩ :=
    (exists_execute_iff_inWords leaves bound_eq sent_eq none).2 fun _ _ _ _ otherAt arrived =>
      Execution.inWords_of_failed stepAt reached failed words otherAt arrived
  have fold := isFold_of_execute leaves bound_eq sent_eq returned
  obtain ⟨stopped, -, -, ⟨entry, -, -, error_eq, details_eq, -⟩, position, -, -, world_eq⟩ :=
    fold.of_failed k step before here failure there stepAt reached failed
  obtain ⟨run, after, run_eq, -, result_eq, status_eq, last_eq⟩ := runSteps_of_ok graphId returned
  rw [stopped] at status_eq
  exact ⟨run, result, after, run_eq, result_eq, status_eq, position,
    details_eq.symm.trans error_eq, last_eq.trans world_eq⟩

/-! ## A relay without words -/

/-- A relay that puts the reason of its refusals into an object. -/
def muteRelay : Transport :=
  ⟨fun _ _ _ => .ok (.obj [("success", .bool false),
    ("error", .obj [("reason", .str "mailbox unavailable")])])⟩

/-- A step that sends a mail. -/
def letter : Step where
  id := "step1"
  kind := "emailSend"
  fields := [("to", .str "ada@example.com"), ("subject", .str "Hello"), ("body", .str "Hi")]
  output := "emailResult"

theorem worded_muteRelay : ({ transport := some muteRelay } : Collaborators).Worded where
  hash := nofun
  compare := nofun
  verify := nofun
  send := by rintro _ ⟨⟩ call sent mail failure ⟨⟩

theorem execute_muteRelay (result : Result) (after : Engine) :
    ({ collaborators := { transport := some muteRelay } } : Engine).execute [letter] (.obj [])
      (.obj []) none ≠ (.ok result, after) := by
  intro returned
  have raised : (({ collaborators := { transport := some muteRelay } } : Engine).execute [letter]
      (.obj []) (.obj []) none).1 = .error (.invalid [⟨.text, [.field "error"]⟩]) := by
    with_unfolding_all rfl
  rw [returned] at raised
  cases raised

/-! ## Main result -/

/-- With the built-in handlers, and collaborators whose failures have words, an execution has a
result and a run comes to its end exactly when no mail is refused without words.  When one is, the
execution has no result and the run is left as it was begun. -/
theorem returns_iff_spared (engine : Engine) (standard : engine.registry = .standard)
    (worded : engine.collaborators.Worded) (steps : List Step) (input headers : Value)
    (bound sent : Object) (bound_eq : Pairs.toObject input = .ok bound)
    (sent_eq : Pairs.toObject headers = .ok sent) :
    (∀ executionId,
      (∃ result after, engine.execute steps input headers executionId = (.ok result, after)) ↔
        ¬ engine.IsMutelyRefused steps input executionId sent) ∧
      ∀ graphId, ∃ run,
        (engine.runSteps steps input headers graphId).2.run? engine.drawId.1 = some run ∧
        (¬ engine.IsMutelyRefused steps input none sent →
          (engine.runSteps steps input headers graphId).1 = .ok run ∧
            run.isFinished = true ∧ run.result.isSome = true) ∧
        (engine.IsMutelyRefused steps input none sent →
          (∃ failure, (engine.runSteps steps input headers graphId).1 = .error failure) ∧
            run.status = .running ∧ run.result = none) := by
  have returns (executionId : Option String) :
      (∃ result after, engine.execute steps input headers executionId = (.ok result, after)) ↔
        ¬ engine.IsMutelyRefused steps input executionId sent :=
    exists_execute_iff standard worded bound_eq sent_eq executionId
  constructor
  · exact returns
  · intro graphId
    cases executed : engine.execute steps input headers none with
    | mk outcome after =>
        cases outcome with
        | ok result =>
            have spared := (returns none).1 ⟨result, after, executed⟩
            obtain ⟨run, last, run_eq, kept, result_eq, status_eq, -⟩ :=
              runSteps_of_ok graphId executed
            have present : run.result.isSome = true := by
              rw [result_eq]
              rfl
            rw [run_eq]
            exact ⟨run, kept, fun _ => ⟨rfl, Run.isFinished_of_status status_eq, present⟩,
              fun refused => absurd refused spared⟩
        | error failure =>
            have refused : engine.IsMutelyRefused steps input none sent := by
              by_contra spared
              rcases (returns none).2 spared with ⟨result, other, returned⟩
              cases executed.symm.trans returned
            rcases runSteps_of_error graphId executed with ⟨run, raised, kept, running, absent⟩
            exact ⟨run, kept, fun spared => absurd refused spared,
              fun _ => ⟨⟨failure, raised⟩, running, absent⟩⟩

/-- An execution that sends a mail through a relay that puts its reason into an object has no
result, and its run is left running. -/
theorem returns_iff_spared_mute :
    let engine : Engine := { collaborators := { transport := some muteRelay } }
    engine.collaborators.Worded ∧ engine.IsMutelyRefused [letter] (.obj []) none [] ∧
      ∃ run, (engine.runSteps [letter] (.obj []) (.obj []) none).2.run? engine.drawId.1 = some run ∧
        run.status = .running ∧ run.result = none := by
  intro engine
  obtain ⟨returns, finishes⟩ :=
    returns_iff_spared engine rfl worded_muteRelay [letter] (.obj []) (.obj []) [] [] rfl rfl
  have refused : engine.IsMutelyRefused [letter] (.obj []) none [] := by
    by_contra spared
    obtain ⟨result, after, returned⟩ := (returns none).2 spared
    exact execute_muteRelay result after returned
  obtain ⟨run, kept, -, left⟩ := finishes none
  exact ⟨worded_muteRelay, refused, run, kept, (left refused).2⟩

/-- Not every execution has a result. -/
theorem execute_not_always_ok :
    ¬ ∀ (engine : Engine) (steps : List Step) (input headers : Object)
      (executionId : Option String), engine.registry = .standard → engine.collaborators.Worded →
        ∃ result after,
          engine.execute steps (.obj input) (.obj headers) executionId = (.ok result, after) := by
  intro returns
  obtain ⟨result, after, returned⟩ :=
    returns { collaborators := { transport := some muteRelay } } [letter] [] [] none rfl
      worded_muteRelay
  exact execute_muteRelay result after returned

end Engine

end Workflow
