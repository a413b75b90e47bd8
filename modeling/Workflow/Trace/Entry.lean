import Workflow.Number.Shortest
import Workflow.Trace.Timestamp
import Workflow.Value.Height
import Workflow.Value.Strict

/-!
# Trace entries

An entry records one event of one step: that it started, finished or failed.
-/

namespace Workflow

/-- What happened to a step. -/
inductive Phase where
  | started
  | finished
  | error
deriving DecidableEq

namespace Phase

/-- All phases. -/
def all : List Phase := [.started, .finished, .error]

/-- The name of a phase. -/
def name : Phase → String
  | .started => "started"
  | .finished => "finished"
  | .error => "error"

/-- Read a phase. -/
def read (value : Value) : Record.Checked Phase :=
  match value with
  | .str name =>
    match all.find? (·.name = name) with
    | some phase => .ok phase
    | none => .violated .choice
  | _ => .violated .choice

end Phase

/-- One event of one step. -/
structure Entry where
  index : Int
  stepId : String
  kind : String
  phase : Phase
  fields : Object := []
  /-- The environment that the step ran against. -/
  environment : Object := []
  output : Value := .null
  error : Option Object := none
  /-- Milliseconds that the step took, unknown while it runs. -/
  duration : Option Number.Double := none
  time : Timestamp

namespace Entry

open Record (Checked)

/-- Read the fields of an entry; one without a time is made now. -/
def readFields (now : Timestamp) (fields : Object) : Checked Entry :=
  let start := Checked.both Entry.mk
    (Record.required fields ⟨"stepIndex", "step_index"⟩ Record.integer)
    (Record.required fields ⟨"stepId", "step_id"⟩ Record.text)
  let withKind := start.apply (Record.required fields ⟨"stepKind", "step_kind"⟩ Record.text)
  let withPhase := withKind.apply (Record.required fields (.plain "phase") Phase.read)
  let withFields := withPhase.apply (Record.optional fields (.plain "input") [] Record.object)
  let withVariables := withFields.apply
    (Record.optional fields ⟨"varsSnapshot", "vars_snapshot"⟩ [] Record.object)
  let withOutput := withVariables.apply (.ok (Value.field fields "output"))
  let withError := withOutput.apply
    (Record.optional fields (.plain "error") none (Record.nullable Record.object))
  let withDuration := withError.apply
    (Record.optional fields ⟨"durationMs", "duration_ms"⟩ none (Record.nullable Record.double))
  withDuration.apply (Record.optional fields (.plain "timestamp") now Timestamp.read)

/-- Read an entry. -/
def read (now : Timestamp) : Value → Checked Entry := Record.model .model (readFields now)

/-- The wire form of an entry. -/
def toObject (entry : Entry) : Object :=
  [("stepIndex", .int entry.index), ("stepId", .str entry.stepId),
    ("stepKind", .str entry.kind), ("phase", .str entry.phase.name),
    ("input", Value.strict (.obj entry.fields)),
    ("varsSnapshot", Value.strict (.obj entry.environment)), ("output", entry.output.strict),
    ("error", (entry.error.map fun error => Value.strict (.obj error)).getD .null),
    ("durationMs", (entry.duration.map Value.float).getD .null),
    ("timestamp", .str entry.time.text)]

/-- The wire form of an entry as a value. -/
def toValue (entry : Entry) : Value := .obj entry.toObject

/-- Whether an entry can be written. -/
def fits (entry : Entry) : Bool :=
  Object.fits entry.fields && Object.fits entry.environment && entry.output.fits &&
    Object.fits (entry.error.getD [])

/-- Write an entry. -/
def write (entry : Entry) : Except Fault Object := Fault.unlessTooHigh entry.fits entry.toObject

end Entry

end Workflow
