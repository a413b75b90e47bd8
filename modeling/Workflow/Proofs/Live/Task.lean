import Workflow.Proofs.Engine.LogHistory
import Workflow.Proofs.Engine.SharedInput

/-!
# Runs in turns

A run waits whenever a socket is to take a frame, and whenever a handler is to reply.  Here it moves in
turns, so that sessions can take turns with it.  Nothing is awaited between the moment an entry is
kept and the moment the sockets that watch are looked up, so both are one turn; each of these sockets
is then pushed the frame in a turn of its own.  Left alone, a run in turns is a run in one go.
-/

namespace Workflow

namespace Engine

theorem withHub_eq {engine : Engine} {hub : Broadcaster}
    (sink_eq : engine.scene.sink = .broadcaster hub) (act : Broadcaster → Broadcaster) :
    engine.withHub act =
      { engine with scene := { engine.scene with sink := .broadcaster (act hub) } } := by
  simp only [withHub, sink_eq]

theorem withHub_self (engine : Engine) : (engine.withHub fun hub => hub) = engine := by
  obtain ⟨-, -, -, -, -, -, sink⟩ := engine
  cases sink <;> rfl

theorem withHub_withHub (engine : Engine) (act next : Broadcaster → Broadcaster) :
    (engine.withHub act).withHub next = engine.withHub fun hub => next (act hub) := by
  obtain ⟨-, -, -, -, -, -, sink⟩ := engine
  cases sink <;> rfl

end Engine

namespace Live

open Execution (Stop runStep runFrom)

/-- How far the steps of a run have come. -/
inductive Point where
  /-- The steps from a position on are still to be run. -/
  | before (index : Nat) (rest : List Step) (progress : Progress)
  /-- The beginning of a step has been recorded, and its handler is still to reply. -/
  | within (index : Nat) (step : Step) (rest : List Step) (progress : Progress)
  /-- No step is to be run any more. -/
  | past (progress : Progress) (stop : Option Stop)

/-- How far the steps have come with a step at a position, given how it ended. -/
def Point.after (index : Nat) (step : Step) (rest : List Step) :
    Except (Progress × Report) Progress → Point
  | .ok progress => .before (index + 1) rest progress
  | .error (progress, report) => .past progress (some ⟨index, step.id, report⟩)

/-- Where a run stands. -/
inductive Task.Stage where
  /-- The run is not kept yet. -/
  | waiting
  /-- The run is kept, and its steps are being executed. -/
  | running (run : Run) (request : Request) (point : Point)
  /-- The run is over, with the failure that ended its execution if there was one. -/
  | done (run : Run) (failure : Option ExecutionFailure)

/-- A run under an id that was drawn for it. -/
structure Task where
  id : String
  graphId : Option String := none
  steps : List Step
  input : Value
  headers : Value
  stage : Task.Stage := .waiting
  /-- The pushes that are still to be made. -/
  owed : List (SocketId × Value) := []
  /-- The entries of the run as they were recorded. -/
  told : List Entry := []

namespace Task

/-- The run as the engine keeps it. -/
def Stage.run? : Stage → Option Run
  | .waiting => none
  | .running run _ _ => some run
  | .done run _ => some run

/-- Owe a frame to every socket that watches the run at this time. -/
def announce (task : Task) (engine : Engine) (frame : Value) : Task :=
  { task with owed := (engine.watchersOf task.id).map (·, frame) }

/-- Record an entry and go on to a stage: the entry is kept, and pushed if it can be written. -/
def record (task : Task) (engine : Engine) (entry : Entry) (stage : Stage) : Task × Engine :=
  let task := { task with stage, told := task.told ++ [entry] }
  let engine := engine.withHub (·.keep task.id entry)
  match Broadcaster.logFrame entry with
  | .ok frame => (task.announce engine frame, engine)
  | .error _ => (task, engine)

/-- Call the handler of a step and record how the step ended. -/
def call (task : Task) (engine : Engine) (run : Run) (request : Request) (index : Nat)
    (step : Step) (rest : List Step) (progress : Progress) : Task × Engine :=
  let reply := Execution.reply engine.registry request step progress.environment engine.scene.world
  let (ending, outcome) := Execution.closing index step progress engine.scene.world.now reply
  let sink := Execution.amendSink request (progress.write reply.writes) reply.writes
    engine.scene.sink
  task.record { engine with scene := { world := reply.world, sink } } ending
    (.running run request (.after index step rest outcome))

/-- Go on when nothing is owed. -/
def proceed (task : Task) (engine : Engine) : Task × Engine :=
  match task.stage with
  | .waiting =>
    let run := Run.begin task.id task.graphId engine.scene.world.now
    let engine := engine.keepRun run
    match Pairs.toObject task.headers, Pairs.toObject task.input with
    | .error cause, _ => ({ task with stage := .done run (some (.fault cause)) }, engine)
    | .ok _, .error cause => ({ task with stage := .done run (some (.fault cause)) }, engine)
    | .ok headers, .ok input =>
      let request : Request :=
        { executionId := task.id, collaborators := engine.collaborators, headers }
      ({ task with stage := .running run request (.before 0 task.steps (Execution.start input)) },
        engine)
  | .running run request (.before _ [] progress) =>
    ({ task with stage := .running run request (.past progress none) }, engine)
  | .running run request (.before index (step :: rest) progress) =>
    task.record engine (progress.entry index step .started engine.scene.world.now)
      (.running run request (.within index step rest progress))
  | .running run request (.within index step rest progress) =>
    task.call engine run request index step rest progress
  | .running run _ (.past progress stop) =>
    match Result.conclude task.id progress stop with
    | .error failure => ({ task with stage := .done run (some failure) }, engine)
    | .ok result =>
      let run := run.complete result engine.scene.world.now
      let engine := engine.keepRun run
      ({ task with stage := .done run none }.announce engine
        (Broadcaster.statusFrame task.id run.status.name), engine)
  | .done _ _ => (task, engine)

/-- One turn of a run: make the next push, or go on when there is none. -/
def turn (task : Task) (engine : Engine) : Task × Engine :=
  match task.owed with
  | [] => task.proceed engine
  | (socket, frame) :: owed =>
    ({ task with owed }, engine.withHub fun hub => hub.push task.id frame socket)

/-- Take turns alone. -/
def alone : Nat → Task → Engine → Task × Engine
  | 0, task, engine => (task, engine)
  | turns + 1, task, engine =>
    let (task, engine) := task.turn engine
    alone turns task engine

/-- What a run has come to. -/
def Stage.outcome? : Stage → Option (Except ExecutionFailure Run)
  | .done run none => some (.ok run)
  | .done _ (some failure) => some (.error failure)
  | _ => none

/-! ## Left alone -/

/-- A run that is left alone comes to a state. -/
def Reaches (task : Task) (engine : Engine) (there : Task) (last : Engine) : Prop :=
  ∃ turns, task.alone turns engine = (there, last)

variable {task there further : Task} {engine last final : Engine} {hub : Broadcaster}

theorem Reaches.refl (task : Task) (engine : Engine) : task.Reaches engine task engine :=
  ⟨0, rfl⟩

theorem Reaches.of_turn (next : (task.turn engine).1.Reaches (task.turn engine).2 there last) :
    task.Reaches engine there last := by
  obtain ⟨turns, reached⟩ := next
  exact ⟨turns + 1, reached⟩

theorem Reaches.trans (first : task.Reaches engine there last)
    (second : there.Reaches last further final) : task.Reaches engine further final := by
  obtain ⟨turns, reached⟩ := first
  induction turns generalizing task engine with
  | zero =>
      obtain ⟨rfl, rfl⟩ := Prod.mk.inj reached
      exact second
  | succ turns ih => exact .of_turn (ih reached)

/-- What is owed is pushed. -/
theorem reaches_pushed (sockets : List SocketId) (frame : Value)
    (owed_eq : task.owed = sockets.map (·, frame)) :
    task.Reaches engine { task with owed := [] }
      (engine.withHub fun hub => sockets.foldl (Broadcaster.push task.id frame) hub) := by
  induction sockets generalizing task engine with
  | nil =>
      have task_eq : { task with owed := [] } = task := by
        rw [List.map_nil] at owed_eq
        rw [← owed_eq]
      rw [task_eq]
      simp only [List.foldl_nil, Engine.withHub_self]
      exact .refl task engine
  | cons socket rest ih =>
      apply Reaches.of_turn
      simp only [turn, owed_eq, List.map_cons]
      have pushed := @ih { task with owed := rest.map (·, frame) }
        (engine.withHub fun hub => hub.push task.id frame socket) rfl
      rwa [Engine.withHub_withHub] at pushed

/-- An entry that is recorded is kept and pushed. -/
theorem reaches_recorded (paid : task.owed = []) (sink_eq : engine.scene.sink = .broadcaster hub)
    (entry : Entry) (stage : Stage) :
    (task.record engine entry stage).1.Reaches (task.record engine entry stage).2
      { task with stage, owed := [], told := task.told ++ [entry] }
      { engine with scene := engine.scene.record task.id entry } := by
  have scene_eq : engine.scene.record task.id entry =
      { engine.scene with sink := .broadcaster (hub.record task.id entry).2 } := by
    rw [Scene.record, sink_eq]
    rfl
  rw [scene_eq]
  cases written : Broadcaster.logFrame entry with
  | ok frame =>
      have pushed := @reaches_pushed
        { task with
          stage, told := task.told ++ [entry]
          owed := ((hub.keep task.id entry).watchersOf task.id).map (·, frame) }
        (engine.withHub (·.keep task.id entry)) _ frame rfl
      simp only [record, written, announce, Engine.watchersOf, Engine.withHub_eq sink_eq,
        Broadcaster.record, Broadcaster.broadcast, Sink.hub?, Option.getD_some] at pushed ⊢
      exact pushed
  | error cause =>
      simp only [record, written, Broadcaster.record, Engine.withHub_eq sink_eq, paid]
      exact .refl _ _

variable {run : Run} {request : Request} {index : Nat} {step : Step} {rest : List Step}
  {progress : Progress}

/-- A step that is run in turns is run as in one go. -/
theorem reaches_after
    (stage_eq : task.stage = .running run request (.before index (step :: rest) progress))
    (paid : task.owed = []) (id_eq : request.executionId = task.id)
    (sink_eq : engine.scene.sink = .broadcaster hub) :
    ∃ told last,
      task.Reaches engine
        { task with
          stage := .running run request (.after index step rest
            (runStep engine.registry request index step progress engine.scene).1)
          owed := []
          told }
        { engine with
          scene := (runStep engine.registry request index step progress engine.scene).2 } ∧
      (runStep engine.registry request index step progress engine.scene).2.sink =
        .broadcaster last := by
  let opening := progress.entry index step .started engine.scene.world.now
  let opened : Engine := { engine with scene := engine.scene.record task.id opening }
  let reply := Execution.reply engine.registry request step progress.environment engine.scene.world
  have opened_eq : opened.scene.sink = .broadcaster (hub.record task.id opening).2 := by
    simp only [opened, Scene.record, sink_eq]
    rfl
  obtain ⟨shown, shown_eq, -⟩ := Execution.exists_amendSink request
    (progress.write reply.writes) reply.writes (hub.record task.id opening).2
  have amended_eq : Execution.amendSink request (progress.write reply.writes) reply.writes
      opened.scene.sink = .broadcaster shown := by
    rw [opened_eq, shown_eq]
  let between : Task := { task with
    stage := .running run request (.within index step rest progress)
    owed := []
    told := task.told ++ [opening] }
  -- The first turns of the step end before the handler is called, the others begin with its reply.
  have begun : task.Reaches engine between opened := by
    apply Reaches.of_turn
    simp only [turn, paid, proceed, stage_eq]
    exact reaches_recorded paid sink_eq opening _
  let closing := Execution.closing index step progress engine.scene.world.now reply
  have ended : between.Reaches opened
      { between with
        stage := .running run request (.after index step rest closing.2)
        owed := []
        told := between.told ++ [closing.1] }
      { engine with
        scene := {
          world := reply.world
          sink := Execution.tellStep request index step progress engine.scene reply.writes
            closing.1 } } := by
    apply Reaches.of_turn
    have recorded := @reaches_recorded between
      { engine with
        scene := {
          world := reply.world
          sink := Execution.amendSink request (progress.write reply.writes) reply.writes
            opened.scene.sink } }
      shown rfl amended_eq closing.1 (.running run request (.after index step rest closing.2))
    rw [Execution.tellStep, id_eq]
    exact recorded
  have told_eq : Execution.tellStep request index step progress engine.scene reply.writes closing.1 =
      .broadcaster (shown.record task.id closing.1).2 := by
    have opened_sink : (engine.scene.sink.record request.executionId opening).2 =
        opened.scene.sink := by
      rw [id_eq]
      rfl
    rw [Execution.tellStep, opened_sink, amended_eq, id_eq]
    rfl
  rw [Execution.runStep_eq]
  exact ⟨_, _, begun.trans ended, told_eq⟩

/-- The steps of a run that is left alone are run as in one go. -/
theorem reaches_past (rest : List Step)
    (stage_eq : task.stage = .running run request (.before index rest progress))
    (paid : task.owed = []) (id_eq : request.executionId = task.id)
    (sink_eq : engine.scene.sink = .broadcaster hub) :
    ∃ told last,
      task.Reaches engine
        { task with
          stage := .running run request
            (.past (runFrom engine.registry request index rest progress engine.scene).1.1
              (runFrom engine.registry request index rest progress engine.scene).1.2)
          owed := []
          told }
        { engine with
          scene := (runFrom engine.registry request index rest progress engine.scene).2 } ∧
      (runFrom engine.registry request index rest progress engine.scene).2.sink =
        .broadcaster last := by
  induction rest generalizing task engine hub index progress with
  | nil =>
      refine ⟨task.told, hub, .of_turn ?_, sink_eq⟩
      simp only [turn, paid, proceed, stage_eq, runFrom]
      exact .refl _ _
  | cons step rest ih =>
      obtain ⟨told, last, reached, last_eq⟩ := reaches_after stage_eq paid id_eq sink_eq
      rw [runFrom]
      cases outcome : runStep engine.registry request index step progress engine.scene with
      | mk ended scene =>
          rw [outcome] at reached last_eq
          cases ended with
          | ok progress =>
              obtain ⟨_, _, further, further_eq⟩ := @ih
                { task with
                  stage := .running run request (.before (index + 1) rest progress)
                  owed := []
                  told }
                { engine with scene } last (index + 1) progress rfl rfl id_eq last_eq
              exact ⟨_, _, reached.trans further, further_eq⟩
          | error failed => exact ⟨_, _, reached, last_eq⟩

/-- A run whose steps have ended is concluded, and told to the sockets that watch it. -/
theorem reaches_over {stop : Option Stop}
    (stage_eq : task.stage = .running run request (.past progress stop)) (paid : task.owed = [])
    (sink_eq : engine.scene.sink = .broadcaster hub) :
    ∃ stage,
      task.Reaches engine { task with stage, owed := [] }
        (match Result.conclude task.id progress stop with
          | .error _ => engine
          | .ok result =>
            let run := run.complete result engine.scene.world.now
            let engine := engine.keepRun run
            { engine with scene := engine.scene.finish task.id run.status.name }) ∧
      stage.outcome? = some ((Result.conclude task.id progress stop).map
        (run.complete · engine.scene.world.now)) := by
  cases concluded : Result.conclude task.id progress stop with
  | error failure =>
      refine ⟨.done run (some failure), .of_turn ?_, rfl⟩
      simp only [turn, paid, proceed, stage_eq, concluded]
      exact .refl _ _
  | ok result =>
      let completed := run.complete result engine.scene.world.now
      let frame := Broadcaster.statusFrame task.id completed.status.name
      have kept_eq : (engine.keepRun completed).scene.sink = .broadcaster hub := sink_eq
      have told_eq : ((engine.keepRun completed).withHub fun hub' =>
          (hub.watchersOf task.id).foldl (Broadcaster.push task.id frame) hub') =
          { engine.keepRun completed with
            scene := (engine.keepRun completed).scene.finish task.id completed.status.name } := by
        rw [Engine.withHub_eq kept_eq, Scene.finish, kept_eq]
        rfl
      have pushed := @reaches_pushed
        { task with
          stage := .done completed none
          owed := (hub.watchersOf task.id).map (·, frame) }
        (engine.keepRun completed) _ frame rfl
      rw [told_eq] at pushed
      refine ⟨.done completed none, .of_turn ?_, rfl⟩
      simp only [turn, paid, proceed, stage_eq, concluded, announce, Engine.watchersOf]
      rw [kept_eq]
      exact pushed

/-- A run that is begun under an id executes its steps under that id. -/
theorem reaches_executed (begins : task.stage = .waiting) (paid : task.owed = [])
    (sink_eq : engine.scene.sink = .broadcaster hub) :
    let begun := Run.begin task.id task.graphId engine.scene.world.now
    let executed := (engine.keepRun begun).executeAs task.steps task.input task.headers task.id
    ∃ stage told,
      task.Reaches engine { task with stage, owed := [], told }
        (match executed.1 with
          | .error _ => executed.2
          | .ok result =>
            let run := begun.complete result executed.2.scene.world.now
            let engine := executed.2.keepRun run
            { engine with scene := engine.scene.finish task.id run.status.name }) ∧
      stage.outcome? = some (executed.1.map (begun.complete · executed.2.scene.world.now)) := by
  intro begun executed
  cases headers_eq : Pairs.toObject task.headers with
  | error cause =>
      have executed_eq : executed = (.error (.fault cause), engine.keepRun begun) := by
        simp only [executed, Engine.executeAs, headers_eq]
      rw [executed_eq]
      refine ⟨.done begun (some (.fault cause)), task.told, .of_turn ?_, rfl⟩
      simp only [turn, paid, proceed, begins, headers_eq]
      exact .refl _ _
  | ok sent =>
      cases input_eq : Pairs.toObject task.input with
      | error cause =>
          have executed_eq : executed = (.error (.fault cause), engine.keepRun begun) := by
            simp only [executed, Engine.executeAs, headers_eq, input_eq]
          rw [executed_eq]
          refine ⟨.done begun (some (.fault cause)), task.told, .of_turn ?_, rfl⟩
          simp only [turn, paid, proceed, begins, headers_eq, input_eq]
          exact .refl _ _
      | ok bound =>
          let request : Request :=
            { executionId := task.id, collaborators := engine.collaborators, headers := sent }
          let stepping : Task := { task with
            stage := .running begun request (.before 0 task.steps (Execution.start bound))
            owed := [] }
          obtain ⟨told, last, stepped, last_eq⟩ := @reaches_past stepping (engine.keepRun begun) hub
            begun request 0 (Execution.start bound) task.steps rfl rfl rfl sink_eq
          let ran := runFrom engine.registry request 0 task.steps (Execution.start bound) engine.scene
          let past : Task := { task with
            stage := .running begun request (.past ran.1.1 ran.1.2)
            owed := []
            told }
          let there : Engine := { engine.keepRun begun with scene := ran.2 }
          obtain ⟨stage, ended, outcome_eq⟩ := @reaches_over past there last begun request ran.1.1
            ran.1.2 rfl rfl last_eq
          have executed_eq : executed = (Result.conclude task.id ran.1.1 ran.1.2, there) := by
            simp only [executed, Engine.executeAs, headers_eq, input_eq]
            rfl
          rw [executed_eq]
          refine ⟨stage, told, .of_turn ?_, outcome_eq⟩
          simp only [turn, paid, proceed, begins, headers_eq, input_eq]
          exact stepped.trans ended

/-- A run that is left alone comes to the outcome of a run in one go, and leaves the engine as that
does. -/
theorem exists_alone_eq_runSteps (sink_eq : engine.scene.sink = .broadcaster hub)
    (steps : List Step) (input headers : Value) (graphId : Option String) :
    ∃ (turns : Nat) (ended : Task),
      ({ id := engine.drawId.1, graphId, steps, input, headers } : Task).alone turns
        engine.drawId.2 = (ended, (engine.runSteps steps input headers graphId).2) ∧
      ended.owed = [] ∧
      ended.stage.outcome? = some (engine.runSteps steps input headers graphId).1 := by
  obtain ⟨stage, told, ⟨turns, reached⟩, outcome_eq⟩ := @reaches_executed
    { id := engine.drawId.1, graphId, steps, input, headers } engine.drawId.2 hub rfl rfl sink_eq
  unfold Engine.runSteps
  dsimp only at reached outcome_eq ⊢
  split
  · rename_i failure after executed
    rw [executed] at reached outcome_eq
    exact ⟨turns, _, reached, rfl, outcome_eq⟩
  · rename_i result after executed
    rw [executed] at reached outcome_eq
    exact ⟨turns, _, reached, rfl, outcome_eq⟩

end Task

end Live

end Workflow
