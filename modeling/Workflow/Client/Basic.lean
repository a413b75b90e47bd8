import Workflow.Identifier
import Workflow.Json.Reader
import Workflow.Value.Equality
import Workflow.Value.Text

/-!
# The demonstration client

A client of the service that starts the bundled sign-up workflow and prints the stream of its trace.
Its connections are given as what they deliver: whether the server is up, the response to the
request, and the frames of the socket.
-/

namespace Workflow.Client

/-- Where the service is reached. -/
def baseUrl : String := "http://localhost:8000"

/-- Where the service's operations are reached. -/
def apiUrl : String := baseUrl ++ "/api/v1"

/-- A call that the client makes. -/
inductive Call where
  | get (url : String)
  | post (url : String) (body : Object)
  | socket (uri : String)

/-- The response to a request. -/
structure Response where
  status : Int
  text : String

/-- What the client's connections deliver. -/
structure Network where
  isUp : Bool := true
  response : Response
  /-- The frames of the socket, before it closes. -/
  frames : List String := []
  /-- The number of the identifier drawn next. -/
  fresh : Nat := 1

/-- What the client has done so far. -/
structure Progress where
  printed : List String := []
  calls : List Call := []
  /-- The frames that are not read yet. -/
  unread : List String := []

/-- Why the client stopped early. -/
inductive Stop where
  | exit (code : Nat)
  | fault (cause : Fault)

/-- A part of the client's work. -/
abbrev Work (α : Type) := ExceptT Stop (StateM Progress) α

/-- Print a text. -/
def print (text : String) : Work Unit :=
  modify fun progress => { progress with printed := progress.printed ++ [text] }

/-- Make a call. -/
def record (call : Call) : Work Unit :=
  modify fun progress => { progress with calls := progress.calls ++ [call] }

/-- Carry on with a result that may be a fault. -/
def attempt {α : Type} (result : Except Fault α) : Work α :=
  match result with
  | .ok value => pure value
  | .error cause => throw (.fault cause)

/-- The field of a value that has to be an object. -/
def fieldOf (value : Value) (name : String) : Except Fault Value :=
  match value with
  | .obj fields =>
    match Object.get? fields name with
    | some found => .ok found
    | none => .error (.missingField name)
  | .arr _ => .error .arrayIndex
  | .str _ => .error .textIndex
  | other => .error (.noParts other.type)

/-- The text of a field. -/
def fieldText (value : Value) (name : String) : Except Fault String := do
  let found ← fieldOf value name
  found.text

/-- The mark that a phase is printed with. -/
def marker (phase : Value) : Except Fault String :=
  match phase with
  | .str "started" => .ok "->"
  | .str "finished" => .ok "ok"
  | .str "error" => .ok "!!"
  | .arr _ | .obj _ => .error (.unhashable phase.type)
  | _ => .ok ".."

/-- The line that a log frame is printed as. -/
def logLine (frame : Object) : Except Fault String := do
  let mark ← marker (← fieldOf (.obj frame) "phase")
  let index ← fieldText (.obj frame) "stepIndex"
  let kind ← fieldText (.obj frame) "stepKind"
  let line := s!"[{mark}] step {index} {kind}"
  match Value.field frame "durationMs" with
  | .null => return line
  | duration => return line ++ " (" ++ (← duration.text) ++ " ms)"

/-- Print a log frame, with its error on a second line. -/
def printLog (frame : Object) : Work Unit := do
  print (← attempt (logLine frame))
  let error := Value.field frame "error"
  if error.isTruthy then print ("     error: " ++ (← attempt (fieldText error "message")))

/-- Print a frame, and tell whether the stream ends with it. -/
def printFrame (frame : Value) : Work Bool := do
  let type ← attempt (fieldOf frame "type")
  match type, frame with
  | .str "connected", _ | .str "waiting", _ =>
    print (← attempt (fieldText frame "message"))
    return false
  | .str "log", .obj fields =>
    printLog fields
    return false
  | .str "status", _ =>
    print ("Execution status: " ++ (← attempt (fieldText frame "status")))
    return true
  | _, _ => return false

/-- Read frames until the stream ends or the socket closes. -/
def readFrames : List String → Work Unit
  | [] => print "WebSocket connection closed"
  | text :: rest => do
    modify fun progress => { progress with unread := rest }
    let frame ← attempt ((Json.read text).mapError (·.fault))
    let isLast ← printFrame frame
    if isLast then return () else readFrames rest

/-- Watch an execution. -/
def watch (executionId : Value) : Work Unit := do
  let id ← attempt executionId.text
  let uri := "ws://localhost:8000/api/v1/ws/executions/" ++ id
  print ("Connecting to WebSocket: " ++ uri)
  record (.socket uri)
  readFrames (← get).unread

/-- The body of the sign-up request. -/
def signupBody (fresh : Nat) : Object :=
  let part := String.ofList ((Identifier.digits fresh).take 8)
  [("name", .str "Demo User"), ("email", .str s!"demo-{part}@example.com"),
    ("password", .str "demo-password")]

/-- Print why a run failed. -/
def printFailure (result : Value) : Work Unit := do
  let step ← attempt (fieldText result "failedStep")
  let error ← attempt (fieldText result "error")
  print s!"Failed at step {step}: {error}"
  match result with
  | .obj fields =>
    match (Value.field fields "errorDetails").orElse (.obj []) with
    | .obj details =>
      if (Value.field details "type").same (.str "EmailError") then
        print "Is an SMTP relay configured? See APIFLOW_SMTP_HOST."
    | other => throw (.fault (.noOperation other.type "get"))
  | _ => return ()

/-- Run the sign-up workflow and return the run's id, null when that failed. -/
def startSignup (network : Network) : Work Value := do
  record (.post (apiUrl ++ "/demo/signup") (signupBody network.fresh))
  if network.response.status ≠ 200 then
    print ("Failed to run workflow: " ++ network.response.text)
    return .null
  else
    let run ← attempt ((Json.read network.response.text).mapError (·.fault))
    let result ← attempt (fieldOf run "result")
    let id ← attempt (fieldText run "runId")
    let ok ← attempt (fieldOf result "ok")
    let verdict ← attempt ok.text
    print s!"Run {id} finished with ok={verdict}"
    if !ok.isTruthy then printFailure result
    attempt (fieldOf run "runId")

/-- The whole client: look whether the server is up, start the workflow and watch its run. -/
def demonstrate (network : Network) : Work Unit := do
  record (.get (baseUrl ++ "/health"))
  if !network.isUp then
    print "Server not running. Start it with: python -m apiflow.main"
    throw (.exit 1)
  else
    let id ← startSignup network
    if id.isTruthy then watch id

/-- Do a part of the client's work on a network. -/
def perform {α : Type} (network : Network) (work : Work α) : Except Stop α × Progress :=
  work.run.run { unread := network.frames }

end Workflow.Client
