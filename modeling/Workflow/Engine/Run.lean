import Workflow.Engine.Execution

/-!
# Runs

A run is an execution that the engine keeps, with its status and, once it is over, its result.
-/

namespace Workflow

/-- The state of a run. -/
inductive RunStatus where
  | running
  | completed
  | failed
deriving DecidableEq

/-- The name of a run's state. -/
def RunStatus.name : RunStatus → String
  | .running => "running"
  | .completed => "completed"
  | .failed => "failed"

/-- A kept execution. -/
structure Run where
  id : String
  graphId : Option String
  status : RunStatus
  result : Option Result := none
  createdAt : Moment
  completedAt : Option Moment := none

namespace Run

/-- A run that has just begun. -/
def begin (id : String) (graphId : Option String) (now : Moment) : Run :=
  { id, graphId, status := .running, createdAt := now }

/-- A run that has come to a result. -/
def complete (run : Run) (result : Result) (now : Moment) : Run :=
  { run with
    status := if result.ok then .completed else .failed
    result := some result
    completedAt := some now }

/-- Whether a run is over. -/
def isFinished (run : Run) : Bool := run.status = .completed || run.status = .failed

/-- The wire form of a run. -/
def toObject (run : Run) : Object :=
  [("runId", .str run.id), ("graphId", Value.ofText? run.graphId),
    ("status", .str run.status.name),
    ("result", (run.result.map fun result => Value.obj result.toObject).getD .null),
    ("createdAt", .str run.createdAt.text),
    ("completedAt", (run.completedAt.map fun moment => Value.str moment.text).getD .null)]

/-- Whether a run can be written. -/
def fits (run : Run) : Bool := run.result.all Result.fits

/-- Write a run. -/
def write (run : Run) : Except Fault Object := Fault.unlessTooHigh run.fits run.toObject

end Run

end Workflow
