import Workflow.Handler.Registry
import Workflow.Trace.Sink

/-!
# Executing steps

Steps run strictly in order.  Each is handed the environment that the steps before it left and binds
its value to its output variable; the first failure ends the execution and nothing is undone.  Every
step leaves one entry in the trace of the execution and two in the sink.

A handler may set fields in the object bound to `input`.  When that object is also the output of
finished entries, these entries show the change; the snapshots of environments are copies and do
not.
-/

namespace Workflow

/-- What an execution acts on: the world and the sink of its trace. -/
structure Scene where
  world : World := {}
  sink : Sink := .none

namespace Scene

/-- Forward an entry to the sink, and go on whether or not that fails. -/
def record (scene : Scene) (id : String) (entry : Entry) : Scene :=
  { scene with sink := (scene.sink.record id entry).2 }

/-- Announce the end of an execution to the sink, and go on whether or not that fails. -/
def finish (scene : Scene) (id status : String) : Scene :=
  { scene with sink := (scene.sink.finish id status).2 }

end Scene

/-- How far an execution has come. -/
structure Progress where
  environment : Object
  entries : List Entry := []
  /-- The positions of the entries whose output is the object bound to `input`. -/
  holders : List Nat := []

namespace Progress

/-- The entry for a phase of a step that runs against the present environment. -/
def entry (progress : Progress) (index : Nat) (step : Step) (phase : Phase) (now : Moment) :
    Entry where
  index := index
  stepId := step.id
  kind := step.kind
  phase := phase
  fields := step.fields
  environment := progress.environment
  time := { moment := now }

/-- The environment with fields set in the object bound to `input`. -/
def writeInput (environment writes : Object) : Object :=
  match Value.field environment "input" with
  | .obj input => Object.set environment "input" (.obj (Object.merge input writes))
  | _ => environment

/-- Show the object bound to `input` as the output of the entries that hold it. -/
def amend (progress : Progress) : Progress :=
  let output := Value.field progress.environment "input"
  { progress with
    entries := progress.entries.mapIdx fun position entry =>
      if progress.holders.contains position then { entry with output } else entry }

/-- Set fields in the object bound to `input`. -/
def write (progress : Progress) (writes : Object) : Progress :=
  if writes.isEmpty then progress
  else amend { progress with environment := writeInput progress.environment writes }

/-- Bind the value of a finished step and keep its entry. -/
def bind (progress : Progress) (output : String) (value : Value) (entry : Entry) : Progress where
  environment := Object.set progress.environment output value
  entries := progress.entries ++ [entry]
  holders := if output = "input" then [progress.entries.length] else progress.holders

end Progress

namespace Execution

/-- The handler's reply to a step of a kind; a kind without a handler fails. -/
def reply (registry : Registry Handler) (request : Request) (step : Step) (environment : Object)
    (world : World) : Reply :=
  match registry.find step.kind with
  | .ok handler => handler step.fields environment request world
  | .error error => { result := .error (.step error), world }

/-- Milliseconds that a step takes: the clock is left out, so none. -/
def elapsed : Number.Double := .ofInt 0

/-- Show a change of the object bound to `input` in the sink's entries as well. -/
def amendSink (request : Request) (progress : Progress) (writes : Object) (sink : Sink) : Sink :=
  if writes.isEmpty then sink
  else
    let output := Value.field progress.environment "input"
    progress.holders.foldl
      (fun sink position => sink.amend request.executionId (position : Nat) output) sink

/-- Run one step: the progress it makes, or the progress at its failure with the report. -/
def runStep (registry : Registry Handler) (request : Request) (index : Nat) (step : Step)
    (progress : Progress) (scene : Scene) : Except (Progress × Report) Progress × Scene :=
  let now := scene.world.now
  let started := progress.entry index step .started now
  let scene := scene.record request.executionId started
  let reply := reply registry request step progress.environment scene.world
  let after := progress.write reply.writes
  let scene : Scene :=
    { world := reply.world, sink := amendSink request after reply.writes scene.sink }
  match reply.result with
  | .ok value =>
    let finished :=
      { progress.entry index step .finished now with output := value, duration := some elapsed }
    (.ok (after.bind step.output value finished), scene.record request.executionId finished)
  | .error failure =>
    let report := failure.report
    let failed :=
      { progress.entry index step .error now with
        error := some report.toObject, duration := some elapsed }
    (.error ({ after with entries := after.entries ++ [failed] }, report),
      scene.record request.executionId failed)

/-- Where and why an execution failed. -/
structure Stop where
  index : Nat
  stepId : String
  report : Report

/-- Run steps from a position on, up to the first failure. -/
def runFrom (registry : Registry Handler) (request : Request) :
    Nat → List Step → Progress → Scene → (Progress × Option Stop) × Scene
  | _, [], progress, scene => ((progress, none), scene)
  | index, step :: rest, progress, scene =>
    match runStep registry request index step progress scene with
    | (.ok progress, scene) => runFrom registry request (index + 1) rest progress scene
    | (.error (progress, report), scene) => ((progress, some ⟨index, step.id, report⟩), scene)

/-- The progress of an execution that is about to begin. -/
def start (input : Object) : Progress := { environment := [("input", .obj input)] }

end Execution

/-- What an execution came to. -/
structure Result where
  executionId : String
  ok : Bool
  output : Object
  steps : List Entry
  failedStep : Option Nat := none
  failedStepId : Option String := none
  error : Option String := none
  errorDetails : Option Object := none

namespace Result

/-- The result of an execution that went as far as `progress`.  An error message that is no text
cannot be reported. -/
def ofEnding (executionId : String) (progress : Progress) :
    Option Execution.Stop → Record.Checked Result
  | none =>
    .ok { executionId, ok := true, output := progress.environment, steps := progress.entries }
  | some stop =>
    match stop.report.message with
    | .str message =>
      .ok {
        executionId
        ok := false
        output := progress.environment
        steps := progress.entries
        failedStep := some stop.index
        failedStepId := some stop.stepId
        error := some message
        errorDetails := some stop.report.toObject }
    | _ => .error [⟨.text, [.field "error"]⟩]

/-- The wire form of a result. -/
def toObject (result : Result) : Object :=
  [("executionId", .str result.executionId), ("ok", .bool result.ok),
    ("output", Value.strict (.obj result.output)),
    ("steps", .arr (result.steps.map Entry.toValue)),
    ("failedStep", (result.failedStep.map Value.ofNat).getD .null),
    ("failedStepId", Value.ofText? result.failedStepId), ("error", Value.ofText? result.error),
    ("errorDetails",
      (result.errorDetails.map fun details => Value.strict (.obj details)).getD .null),
    ("totalDurationMs", .float Execution.elapsed)]

/-- Whether a result can be written. -/
def fits (result : Result) : Bool :=
  Object.fits result.output && result.steps.all Entry.fits &&
    Object.fits (result.errorDetails.getD [])

/-- Write a result. -/
def write (result : Result) : Except Fault Object := Fault.unlessTooHigh result.fits result.toObject

end Result

end Workflow
