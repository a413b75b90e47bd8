import Workflow.Fault
import Workflow.Record.Reader

/-!
# Errors

The errors of compiling a graph and of running a step, by cause, and the report that a caller sees:
a class, a message and details.  A message is a text, unless a mail relay answered with something
else.
-/

namespace Workflow

/-- The classes of errors. -/
inductive ErrorClass where
  | workflow
  | compile
  | cycle
  | danglingEdge
  | duplicateNode
  | step
  | validation
  | modelNotFound
  | emptyDocument
  | auth
  | email
  | unknownKind
deriving DecidableEq

/-- The name by which reports call a class of errors. -/
def ErrorClass.name : ErrorClass → String
  | .workflow => "WorkflowError"
  | .compile => "CompileError"
  | .cycle => "CycleError"
  | .danglingEdge => "DanglingEdgeError"
  | .duplicateNode => "DuplicateNodeError"
  | .step => "StepError"
  | .validation => "ValidationError"
  | .modelNotFound => "NotFoundModelError"
  | .emptyDocument => "EmptyDocumentError"
  | .auth => "AuthError"
  | .email => "EmailError"
  | .unknownKind => "UnknownStepKindError"

/-- What a caller sees of an error. -/
structure Report where
  kind : ErrorClass
  message : Value
  details : Object := []

/-- A report as a value; details are left out when there are none. -/
def Report.toObject (report : Report) : Object :=
  ("type", .str report.kind.name) :: ("message", report.message) ::
    if report.details.isEmpty then [] else [("details", .obj report.details)]

/-- What is wrong with an edge. -/
inductive EdgeProblem where
  | unknownSource (node : String)
  | unknownTarget (node : String)
  | selfConnection
deriving DecidableEq

/-- The wording of an edge's problem. -/
def EdgeProblem.wording : EdgeProblem → String
  | .unknownSource node => s!"source node '{node}' does not exist"
  | .unknownTarget node => s!"target node '{node}' does not exist"
  | .selfConnection => "self-connection is not allowed"

/-- Why a graph has no compiled form. -/
inductive CompileError where
  | duplicateNode (id : String)
  | danglingEdge (edge : String) (problem : EdgeProblem)
  /-- The nodes that are never released, in the order of the graph. -/
  | cycle (nodes : List String)
deriving DecidableEq

/-- What a caller sees of a compile error. -/
def CompileError.report : CompileError → Report
  | .duplicateNode id =>
    ⟨.duplicateNode, .str s!"Duplicate node id '{id}'", [("node", .str id)]⟩
  | .danglingEdge edge problem =>
    ⟨.danglingEdge, .str s!"Edge {edge}: {problem.wording}", [("edge", .str edge)]⟩
  | .cycle nodes =>
    ⟨.cycle, .str "Cycle detected in workflow graph", [("nodes", .ofTexts nodes)]⟩

/-- Why a token was refused. -/
inductive AuthProblem where
  /-- No header that carries a bearer token. -/
  | noBearer
  | noVerifier
  | expired
  /-- The token is malformed, or a signature or claim check failed. -/
  | invalidToken (reason : String)
deriving DecidableEq

/-- The wording of an authentication problem. -/
def AuthProblem.wording : AuthProblem → String
  | .noBearer => "Missing or invalid Authorization header"
  | .noVerifier => "No auth verifier configured"
  | .expired => "Auth failed: token expired"
  | .invalidToken reason => s!"Auth failed: invalid token ({reason})"

/-- Why a step failed. -/
inductive StepError where
  /-- The messages about each field that failed, in order of first failure. -/
  | validation (failures : List (String × List String))
  /-- The collection asked for, and those there are. -/
  | modelNotFound (collection : Value) (shown : String) (available : List String)
  | emptyDocument (collection : String)
  | auth (problem : AuthProblem)
  /-- Recipient, subject or body is not given. -/
  | incompleteMail
  | noTransport
  /-- The transport failed, with the text of its failure. -/
  | undelivered (reason : String)
  /-- The transport answered that it did not succeed, in these words if it had any. -/
  | refused (answer : Value)
  | noHasher
  | unknownKind (kind : String) (available : List String)
  /-- Anything else that a step or a collaborator reports. -/
  | reported (report : Report)

/-- What a caller sees of a step error. -/
def StepError.report : StepError → Report
  | .validation failures =>
    ⟨.validation, .str "Input validation failed",
      [("errors", .obj (failures.map fun failure => (failure.1, .ofTexts failure.2))),
       ("failedFields", .ofTexts (failures.map (·.1)))]⟩
  | .modelNotFound collection shown available =>
    let known :=
      if available.isEmpty then ""
      else ". Available collections: " ++ ", ".intercalate available
    ⟨.modelNotFound, .str (s!"Model not found for collection \"{shown}\"" ++ known),
      [("collection", collection)]⟩
  | .emptyDocument collection =>
    ⟨.emptyDocument, .str s!"Refusing to insert an empty document into \"{collection}\"",
      [("collection", .str collection)]⟩
  | .auth problem => ⟨.auth, .str problem.wording, []⟩
  | .incompleteMail =>
    ⟨.email,
      .str "Email resolution failed: missing required fields (to, subject, or body)", []⟩
  | .noTransport => ⟨.email, .str "No email transport configured", []⟩
  | .undelivered reason => ⟨.email, .str ("Email sending failed: " ++ reason), []⟩
  | .refused answer => ⟨.email, answer.orElse (.str "Email sending failed"), []⟩
  | .noHasher => ⟨.step, .str "No password hasher configured", []⟩
  | .unknownKind kind available =>
    ⟨.unknownKind, .str s!"Unknown step type: {kind}",
      [("availableTypes", .ofTexts available)]⟩
  | .reported report => report

/-- Whatever keeps an operation from returning: an error of a workflow, or a fault. -/
inductive Failure where
  | step (error : StepError)
  | fault (cause : Fault)

/-- The error that a failure counts as: a fault is reported as a step error that names its class. -/
def Failure.report : Failure → Report
  | .step error => error.report
  | .fault cause =>
    ⟨.step, .str s!"{cause.kind.name}: {cause.text}", [("type", .str cause.kind.name)]⟩

instance : Coe StepError Failure := ⟨.step⟩
instance : Coe Fault Failure := ⟨.fault⟩

end Workflow
