import Workflow.Http.Service
import Workflow.Proofs.Engine.Ending
import Workflow.Proofs.Engine.Keyed
import Workflow.Proofs.Engine.Operation

/-!
# The life cycle of runs

A run is kept as running before its steps are executed and, when that comes to a result, as
completed or failed with it.  Whatever is done to the engine afterwards only keeps more runs after
it: as long as each run gets an id of its own, a kept run is never removed and never changes again.
-/

namespace Workflow

namespace Run

/-- A run that has not come to a result. -/
structure IsRunning (run : Run) : Prop where
  status_eq : run.status = .running
  result_eq : run.result = none
  completedAt_eq : run.completedAt = none

/-- A run whose steps all finished. -/
structure HasCompleted (run : Run) : Prop where
  status_eq : run.status = .completed
  result_ok : ∃ result, run.result = some result ∧ result.ok = true
  isSome_completedAt : run.completedAt.isSome = true

/-- A run of which a step failed. -/
structure HasFailed (run : Run) : Prop where
  status_eq : run.status = .failed
  result_not_ok : ∃ result, run.result = some result ∧ result.ok = false
  isSome_completedAt : run.completedAt.isSome = true

/-- A run as an engine keeps it under an id. -/
structure IsKeptAs (run : Run) (id : String) : Prop where
  id_eq : run.id = id
  state : run.IsRunning ∨ run.HasCompleted ∨ run.HasFailed
  executionId_eq : ∀ result, run.result = some result → result.executionId = id

variable {run : Run}

/-- The three states of a run exclude each other, by its status. -/
theorem exactlyOne_of_state (state : run.IsRunning ∨ run.HasCompleted ∨ run.HasFailed) :
    (run.IsRunning ∧ ¬ run.HasCompleted ∧ ¬ run.HasFailed) ∨
      (¬ run.IsRunning ∧ run.HasCompleted ∧ ¬ run.HasFailed) ∨
      (¬ run.IsRunning ∧ ¬ run.HasCompleted ∧ run.HasFailed) := by
  have notBoth : ¬ (run.IsRunning ∧ run.HasCompleted) := by
    rintro ⟨running, completed⟩
    cases running.status_eq.symm.trans completed.status_eq
  have notEither : ¬ (run.IsRunning ∧ run.HasFailed) := by
    rintro ⟨running, failed⟩
    cases running.status_eq.symm.trans failed.status_eq
  have notOther : ¬ (run.HasCompleted ∧ run.HasFailed) := by
    rintro ⟨completed, failed⟩
    cases completed.status_eq.symm.trans failed.status_eq
  tauto

/-- A run is over exactly when it has a result. -/
theorem isFinished_eq_of_state (state : run.IsRunning ∨ run.HasCompleted ∨ run.HasFailed) :
    run.isFinished = run.result.isSome := by
  rcases state with running | completed | failed
  · simp [isFinished, running.status_eq, running.result_eq]
  · rcases completed.result_ok with ⟨result, result_eq, -⟩
    simp [isFinished, completed.status_eq, result_eq]
  · rcases failed.result_not_ok with ⟨result, result_eq, -⟩
    simp [isFinished, failed.status_eq, result_eq]

theorem isKeptAs_begin (id : String) (graphId : Option String) (now : Moment) :
    (Run.begin id graphId now).IsKeptAs id where
  id_eq := rfl
  state := .inl ⟨rfl, rfl, rfl⟩
  executionId_eq := nofun

theorem isKeptAs_complete (id : String) (graphId : Option String) (begun now : Moment)
    {result : Result} (same : result.executionId = id) :
    ((Run.begin id graphId begun).complete result now).IsKeptAs id where
  id_eq := rfl
  state := by
    cases ok : result.ok with
    | true => exact .inr (.inl ⟨by simp [complete, ok], ⟨result, rfl, ok⟩, rfl⟩)
    | false => exact .inr (.inr ⟨by simp [complete, ok], ⟨result, rfl, ok⟩, rfl⟩)
  executionId_eq := by
    rintro _ ⟨⟩
    exact same

end Run

namespace Engine

/-! ## What an operation adds -/

/-- A result bears the id under which its execution was asked for. -/
theorem executionId_of_execute {engine after : Engine} {steps : List Step} {input headers : Value}
    {executionId : Option String} {result : Result}
    (returned : engine.execute steps input headers executionId = (.ok result, after)) :
    result.executionId = (engine.identify executionId).1 := by
  obtain ⟨sent, bound, progress, stop, scene, -, -, -, ended, -⟩ := execute_eq_ok_iff.1 returned
  exact (Result.eq_of_ofEnding ended).1

/-- A run under an id of its own is kept after all others. -/
theorem runs_runSteps (engine : Engine) (steps : List Step) (input headers : Value)
    (graphId : Option String) (own : engine.drawId.1 ∉ engine.runs.map (·.1)) :
    ∃ run : Run, run.IsKeptAs engine.drawId.1 ∧
      (engine.runSteps steps input headers graphId).2.runs =
        engine.runs ++ [(engine.drawId.1, run)] := by
  let begun := Run.begin engine.drawId.1 graphId engine.drawId.2.scene.world.now
  cases ended : engine.execute steps input headers none with
  | mk outcome after =>
      cases outcome with
      | error failure =>
          have runs_eq : after.runs = engine.runs := by
            have unchanged := congrArg Engine.runs (execute_snd engine steps input headers none)
            rwa [ended] at unchanged
          refine ⟨begun, Run.isKeptAs_begin _ _ _, ?_⟩
          rw [runSteps_eq_of_error graphId ended, keepRun, runs_eq]
          exact putKeyed_of_not_mem begun own
      | ok result =>
          let run := begun.complete result after.scene.world.now
          have returned := runSteps_eq_ok_iff.2 ⟨result, after, begun, ended, rfl, rfl, rfl⟩
          have runs_eq : (engine.runSteps steps input headers graphId).2.runs =
              putKeyed engine.drawId.1 run (putKeyed engine.drawId.1 begun engine.runs) :=
            congrArg (fun ended => ended.2.runs) returned
          have same := executionId_of_execute ended
          have kept : run.IsKeptAs engine.drawId.1 := by
            apply Run.isKeptAs_complete
            simpa only [identify] using same
          refine ⟨run, kept, ?_⟩
          rw [runs_eq, putKeyed_of_not_mem begun own, putKeyed_concat run begun own]

/-- Whether an operation begins a run. -/
def Operation.beginsRun : Operation → Bool
  | .runSteps .. | .runGraph .. => true
  | _ => false

/-- An operation keeps more runs after those that there are. -/
theorem runs_perform (engine : Engine) (operation : Operation)
    (own : operation.beginsRun = true → engine.drawId.1 ∉ engine.runs.map (·.1)) :
    ∃ more, (engine.perform operation).2.runs = engine.runs ++ more ∧
      ∀ id run, (id, run) ∈ more → run.IsKeptAs id := by
  have none : ∃ more, engine.runs = engine.runs ++ more ∧
      ∀ id run, (id, run) ∈ more → Run.IsKeptAs run id :=
    ⟨[], by simp, by simp⟩
  have one (steps : List Step) (input headers : Value) (graphId : Option String)
      (own : engine.drawId.1 ∉ engine.runs.map (·.1)) :
      ∃ more, (engine.runSteps steps input headers graphId).2.runs = engine.runs ++ more ∧
        ∀ id run, (id, run) ∈ more → run.IsKeptAs id := by
    rcases runs_runSteps engine steps input headers graphId own with ⟨run, kept, runs_eq⟩
    refine ⟨[(engine.drawId.1, run)], runs_eq, ?_⟩
    intro id other member
    rcases Prod.mk.inj (List.mem_singleton.1 member) with ⟨rfl, rfl⟩
    exact kept
  cases operation with
  | createGraph graph =>
      rcases exists_createGraph engine graph with ⟨graphs, created⟩
      simp only [perform, created]
      exact none
  | publish graphId name =>
      rcases exists_publish engine graphId name with ⟨publications, published⟩
      simp only [perform, published]
      exact none
  | execute steps input headers executionId =>
      have unchanged := congrArg Engine.runs (execute_snd engine steps input headers executionId)
      simp only [perform, unchanged]
      exact none
  | runSteps steps input headers graphId =>
      simp only [perform]
      exact one steps input headers graphId (own rfl)
  | runGraph id input headers =>
      simp only [perform, runGraph]
      split
      · exact none
      · exact one _ input headers (some id) (own rfl)
  | register kind handler => exact none
  | onWorld happening => exact none

/-! ## Histories -/

/-- Every run that operations begin gets an id that no kept run has. -/
def OwnIds (happens : Nat → Sink → Sink) (engine : Engine) : List Operation → Prop
  | [] => True
  | operation :: rest =>
    (operation.beginsRun = true → engine.drawId.1 ∉ engine.runs.map (·.1)) ∧
      OwnIds (fun position => happens (position + 1))
        ((engine.onSink (happens 0)).perform operation).2 rest

/-- A history keeps more runs after those that there were when it began. -/
theorem runs_performAll (happens : Nat → Sink → Sink) (engine : Engine)
    (operations : List Operation) (own : OwnIds happens engine operations) :
    ∃ more, (performAll happens engine operations).2.runs = engine.runs ++ more ∧
      ∀ id run, (id, run) ∈ more → run.IsKeptAs id := by
  induction operations generalizing happens engine with
  | nil => exact ⟨[], by simp [performAll], by simp⟩
  | cons operation rest inductionHypothesis =>
      rcases own with ⟨ownFirst, ownRest⟩
      rcases runs_perform (engine.onSink (happens 0)) operation ownFirst with
        ⟨here, here_eq, hereKept⟩
      rcases inductionHypothesis _ _ ownRest with ⟨there, there_eq, thereKept⟩
      refine ⟨here ++ there, ?_, ?_⟩
      · rw [← List.append_assoc]
        exact there_eq.trans (congrArg (· ++ there) here_eq)
      · intro id run member
        rcases List.mem_append.1 member with first | later
        · exact hereKept id run first
        · exact thereKept id run later

/-- Throughout every history of an engine without runs, in which each run gets an id of its own, a
kept run is running without a result, completed with a successful one or failed with another, and
only one of these; its result bears its id; and whatever is done later leaves it as it is.  The log
of the run therefore says that it is finished exactly when it has a result. -/
theorem runs_lifeCycle (engine : Engine) (noRuns : engine.runs = [])
    (happens happenings : Nat → Sink → Sink) (operations later : List Operation)
    (own : OwnIds happens engine operations)
    (ownLater : OwnIds happenings (performAll happens engine operations).2 later) (id : String)
    (run : Run) (kept : (performAll happens engine operations).2.run? id = some run) :
    run.id = id ∧
      ((run.IsRunning ∧ ¬ run.HasCompleted ∧ ¬ run.HasFailed) ∨
        (¬ run.IsRunning ∧ run.HasCompleted ∧ ¬ run.HasFailed) ∨
        (¬ run.IsRunning ∧ ¬ run.HasCompleted ∧ run.HasFailed)) ∧
      (∀ result, run.result = some result → result.executionId = id) ∧
      (performAll happenings (performAll happens engine operations).2 later).2.run? id =
        some run ∧
      ∀ settings cursor fields,
        ({ settings, engine := (performAll happens engine operations).2 } : Http.Service).logs id
            cursor = .ok fields →
          Value.field fields "finished" = .bool run.result.isSome := by
  rcases runs_performAll happens engine operations own with ⟨runs, runs_eq, each⟩
  rw [noRuns, List.nil_append] at runs_eq
  have sound : run.IsKeptAs id := by
    apply each
    rw [← runs_eq]
    exact mem_of_keyed_eq_some kept
  rcases runs_performAll happenings _ later ownLater with ⟨more, more_eq, -⟩
  refine ⟨sound.id_eq, Run.exactlyOne_of_state sound.state, sound.executionId_eq, ?_, ?_⟩
  · rw [run?, more_eq]
    exact keyed_append_of_some kept more
  · intro settings cursor fields replied
    rw [← Run.isFinished_eq_of_state sound.state]
    simp only [Http.Service.logs, kept] at replied
    split at replied
    · cases replied
    · split at replied
      · cases replied
      · unfold Http.Service.written at replied
        split at replied
        · cases replied
          rfl
        · cases replied

/-- An engine in which a run failed at a step of an unknown kind. -/
def afterFailure : Engine :=
  (performAll (fun _ sink => sink) {}
    [.runSteps [⟨"step1", "teleport", [], "place"⟩] (.obj []) (.obj []) none]).2

/-- The failed run stays as it is while another one begins and ends. -/
theorem runs_lifeCycle_failed :
    ∃ run, afterFailure.run? "00000000-0000-0000-0000-000000000001" = some run ∧ run.HasFailed ∧
      (performAll (fun _ sink => sink) afterFailure
          [.runSteps [] (.obj []) (.obj []) none]).2.run?
        "00000000-0000-0000-0000-000000000001" = some run := by
  have status_eq : (afterFailure.run? "00000000-0000-0000-0000-000000000001").map (·.status) =
      some .failed := by
    decide +kernel
  have own : afterFailure.drawId.1 ∉ afterFailure.runs.map (·.1) := by
    decide +kernel
  rcases Option.map_eq_some_iff.1 status_eq with ⟨run, kept, failed⟩
  rcases runs_lifeCycle {} rfl (fun _ sink => sink) (fun _ sink => sink)
    [.runSteps [⟨"step1", "teleport", [], "place"⟩] (.obj []) (.obj []) none]
    [.runSteps [] (.obj []) (.obj []) none] ⟨fun _ => List.not_mem_nil, trivial⟩
    ⟨fun _ => own, trivial⟩ _ run kept with ⟨-, state, -, unchanged, -⟩
  refine ⟨run, kept, ?_, unchanged⟩
  rcases state with ⟨running, -⟩ | ⟨-, completed, -⟩ | ⟨-, -, hasFailed⟩
  · cases failed.symm.trans running.status_eq
  · cases failed.symm.trans completed.status_eq
  · exact hasFailed

end Engine

end Workflow
