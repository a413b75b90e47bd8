import Workflow.Engine.Basic
import Workflow.Http.Route
import Workflow.Settings
import Workflow.Signup

/-!
# The service

The service answers requests with the operations of its engine.  A failed step is reported in the
body of a successful response; only a request that cannot be served gets an error status.
-/

namespace Workflow.Http

open Record (Checked)

/-- The service: its settings and its engine. -/
structure Service where
  settings : Settings := {}
  engine : Engine := {}

namespace Service

/-- The id of the bundled workflow. -/
def signupId : String := "graph_1"

/-- A service whose engine has just been set up: the bundled workflow is stored first. -/
def start (settings : Settings) (engine : Engine) : Service :=
  { settings, engine := (engine.createGraph Signup.graph).2 }

/-- What a service answers with. -/
abbrev Answer := Reply × Service

/-- Answer without a change. -/
def reply (service : Service) (reply : Reply) : Answer := (reply, service)

/-- The description of the service. -/
def about (settings : Settings) : Object :=
  let start := settings.apiPrefix
  let slot (name : String) := "\x7b" ++ name ++ "\x7d"
  let post (path : String) : Value := .str ("POST " ++ start ++ path)
  let get (path : String) : Value := .str ("GET " ++ start ++ path)
  [("message", .str settings.appName), ("version", .str settings.appVersion),
    ("docs", .str "/docs"),
    ("endpoints", .obj [
      ("compile_graph", post "/graph/compile"),
      ("create_graph", post "/graph/create"),
      ("run_graph", post "/graph/run"),
      ("execute_steps", post "/execute"),
      ("publish_graph", post ("/graph/" ++ slot "graph_id" ++ "/publish")),
      ("run_published", post ("/run/" ++ slot "graph_id" ++ "/" ++ slot "slug")),
      ("get_run", get ("/runs/" ++ slot "run_id")),
      ("run_logs", get ("/runs/" ++ slot "run_id" ++ "/logs")),
      ("websocket_logs", .str ("WS " ++ start ++ "/ws/executions/" ++ slot "run_id")),
      ("list_graphs", get "/graphs"),
      ("list_steps", get "/steps"),
      ("list_collections", get "/collections"),
      ("memory_stats", get "/memory/stats"),
      ("demo_signup", post "/demo/signup")])]

/-- Serve a request whose body has to be there and be readable. -/
def withBody {α : Type} (service : Service) (request : Request) (read : Value → Checked α)
    (serve : α → Answer) : Answer :=
  match request.readBody with
  | .absent => service.reply (.unprocessable [⟨.missing, [.field "body"]⟩])
  | .malformed offset =>
    service.reply (.unprocessable [⟨.json, [.field "body", .item offset]⟩])
  | .unreadable => service.reply (.detail 400 (.str "There was an error parsing the body"))
  | .value value =>
    match (read value).within (.field "body") with
    | .ok content => serve content
    | .error violations => service.reply (.unprocessable violations)

/-- Serve a request whose body may be left out. -/
def withOptionalBody (service : Service) (request : Request) (serve : Option Object → Answer) :
    Answer :=
  match request.readBody with
  | .absent => serve none
  | _ => service.withBody request (Record.nullable Record.object) serve

/-- The reply to a graph that does not compile. -/
def compileReply : Graph.CompileFailure → Reply
  | .rejected error => .detail 400 (.obj error.report.toObject)
  | .invalid _ => .broken "ValidationError"

/-- A successful response, if what it writes can be written. -/
def written (fits : Bool) (fields : Object) : Reply :=
  if fits then .ok fields else .broken "PydanticSerializationError"

/-- Compile a graph without storing it. -/
def compile (service : Service) (graph : Graph) : Answer :=
  match graph.compile with
  | .ok steps => service.reply (written (Step.listFits steps) [("steps", Step.listToValue steps)])
  | .error failure => service.reply (compileReply failure)

/-- Compile and store a graph. -/
def createGraph (service : Service) (graph : Graph) : Answer :=
  match service.engine.createGraph graph with
  | (.ok stored, engine) =>
    (written (Step.listFits stored.steps)
        [("graphId", .str stored.id),
          ("message", .str s!"Graph '{graph.name}' created successfully"),
          ("steps", Step.listToValue stored.steps)],
      { service with engine })
  | (.error failure, engine) => (compileReply failure, { service with engine })

/-- The summary of a stored graph. -/
def summary (stored : StoredGraph) : Value :=
  .obj [("graph_id", .str stored.id), ("name", .str stored.graph.name),
    ("node_count", .ofNat stored.graph.nodes.length),
    ("edge_count", .ofNat stored.graph.edges.length)]

/-- The reply to an execution without a result. -/
def executionReply : ExecutionFailure → Reply
  | .refused _ => .broken FaultClass.value.name
  | .fault cause => .broken cause.kind.name
  | .invalid _ => .broken "ValidationError"

/-- Answer with what an execution came to. -/
def answerRun (service : Service) (reply : Run → Reply)
    (outcome : Except ExecutionFailure Run × Engine) : Answer :=
  match outcome with
  | (.ok run, engine) => (reply run, { service with engine })
  | (.error failure, engine) => (executionReply failure, { service with engine })

/-- The reply that shows a run. -/
def showRun (run : Run) : Reply := written run.fits run.toObject

/-- The reply that shows the result of a run, if it has one. -/
def showResult (run : Run) : Reply :=
  match run.result with
  | none => .ok []
  | some result =>
    match result.write with
    | .ok written => .ok written
    | .error cause => .broken cause.kind.name

/-- Read the request to run a stored graph. -/
def readRunRequest (fields : Object) : Checked (String × Object) :=
  Checked.both Prod.mk
    (Record.required fields ⟨"graphId", "graph_id"⟩ Record.text)
    (Record.optional fields (.plain "input") [] Record.object)

/-- Read the request to execute steps. -/
def readExecuteRequest (fields : Object) : Checked (List Step × Object) :=
  Checked.both Prod.mk
    (Record.required fields (.plain "steps") (Record.list (Step.read .modelAttributes)))
    (Record.optional fields (.plain "input") [] Record.object)

/-- Read the request to publish a graph. -/
def readPublishRequest (fields : Object) : Checked String :=
  Record.required fields ⟨"apiName", "api_name"⟩ Record.text

/-- Run a stored graph. -/
def runGraph (service : Service) (headers : Object) (id : String) (input : Object) : Answer :=
  match service.engine.graph? id with
  | none => service.reply (.detail 404 (.str s!"Graph {id} not found"))
  | some _ =>
    service.answerRun showRun (service.engine.runGraph id (.obj input) (.obj headers))

/-- Execute compiled steps. -/
def executeSteps (service : Service) (headers : Object) (steps : List Step) (input : Object) :
    Answer :=
  service.answerRun showRun
    (service.engine.runSteps steps (.obj input) (.obj headers) none)

/-- Publish a stored graph. -/
def publish (service : Service) (id name : String) : Answer :=
  match service.engine.graph? id with
  | none => service.reply (.detail 404 (.str "Graph not found"))
  | some _ =>
    match service.engine.publish id name with
    | (.ok publication, engine) => (.ok publication.toObject, { service with engine })
    | (.error error, engine) => (.detail 400 (.str error.message), { service with engine })

/-- Run a published graph. -/
def runPublished (service : Service) (headers : Object) (graphId slug : String)
    (input : Option Object) : Answer :=
  match service.engine.publication? graphId slug with
  | none => service.reply (.detail 404 (.str "API not published or invalid path"))
  | some _ =>
    service.answerRun showResult
      (service.engine.runGraph graphId (.obj (input.getD [])) (.obj headers))

/-- The log of a run, with a cursor only what is newer. -/
def logs (service : Service) (id : String) (cursor : Value) : Reply :=
  match service.engine.run? id with
  | none => .detail 404 (.str "Workflow run not found")
  | some run =>
    let hub := service.engine.scene.sink.hub?.getD {}
    match hub.entriesAfter id cursor with
    | .error cause => .broken cause.kind.name
    | .ok entries =>
      match entries.mapM Entry.write with
      | .error cause => .broken cause.kind.name
      | .ok logs =>
        written (logs.all Object.fits)
          [("runId", .str id), ("logs", .arr (logs.map .obj)),
            ("finished", .bool run.isFinished), ("status", .str run.status.name),
            ("timestamp",
              .float (.ofRatio false service.engine.scene.world.now.micros.toNat 1000))]

/-- The cursor of a request for a log. -/
def cursor (request : Request) : Checked Value :=
  match request.parameter? "after" with
  | none => .ok .null
  | some text =>
    Checked.within (.field "query")
      (Checked.within (.field "after") ((Record.doubleOfText text).map Value.float))

/-- Carry out an operation. -/
def perform (service : Service) (request : Request) : Operation → Answer
  | .about => service.reply (.ok (about service.settings))
  | .health => service.reply (.ok [("status", .str "healthy")])
  | .compile => service.withBody request (Graph.read .modelAttributes) service.compile
  | .createGraph => service.withBody request (Graph.read .modelAttributes) service.createGraph
  | .listGraphs =>
    service.reply (.ok [("graphs", .arr (service.engine.graphs.map fun kept => summary kept.2))])
  | .getGraph id =>
    match service.engine.graph? id with
    | some stored => service.reply (written stored.fits stored.toObject)
    | none => service.reply (.detail 404 (.str "Graph not found"))
  | .runGraph =>
    service.withBody request (Record.model .modelAttributes readRunRequest) fun (id, input) =>
      service.runGraph request.headers id input
  | .executeSteps =>
    service.withBody request (Record.model .modelAttributes readExecuteRequest)
      fun (steps, input) => service.executeSteps request.headers steps input
  | .publish id =>
    service.withBody request (Record.model .modelAttributes readPublishRequest) (service.publish id)
  | .runPublished graphId slug =>
    service.withOptionalBody request (service.runPublished request.headers graphId slug)
  | .getRun id =>
    match service.engine.run? id with
    | some run => service.reply (showRun run)
    | none => service.reply (.detail 404 (.str "Workflow run not found"))
  | .getLogs id =>
    match cursor request with
    | .error violations => service.reply (.unprocessable violations)
    | .ok cursor => service.reply (service.logs id cursor)
  | .listCollections =>
    service.reply (.ok [("collections", .ofTexts service.engine.scene.world.store.names)])
  | .listSteps => service.reply (.ok [("steps", .ofTexts service.engine.registry.kinds)])
  | .memory =>
    let hub := service.engine.scene.sink.hub?.getD {}
    service.reply (.ok (Object.merge service.engine.stats hub.stats))
  | .demoSignup =>
    service.withOptionalBody request fun input =>
      let given := (input.getD [])
      let input := if given.isEmpty then Signup.sample else given
      service.answerRun showRun
        (service.engine.runGraph signupId (.obj input) (.obj request.headers))

/-- The methods that other sites may announce. -/
def announcedMethods : List String := ["DELETE", "GET", "HEAD", "OPTIONS", "PATCH", "POST", "PUT"]

/-- The reply to a request by which another site asks whether it may send one; such a request tells
its origin and the method that is to follow. -/
def preflight? (settings : Settings) (request : Request) : Option Reply :=
  match request.header? "origin", request.header? "access-control-request-method" with
  | some origin, some (.str method) =>
    if request.method ≠ "OPTIONS" then none
    else
      let isAllowed := settings.allowedOrigins.any fun allowed =>
        allowed = "*" || origin.same (.str allowed)
      let refused := (if isAllowed then [] else ["origin"]) ++
        (if announcedMethods.contains method then [] else ["method"])
      if refused.isEmpty then some (.plain 200 "OK")
      else some (.plain 400 ("Disallowed CORS " ++ ", ".intercalate refused))
  | _, _ => none

/-- Handle a request. -/
def handle (service : Service) (request : Request) : Answer :=
  match preflight? service.settings request with
  | some reply => service.reply reply
  | none =>
    match target service.settings.apiPrefix request.method request.path with
    | .operation operation => service.perform request operation
    | .documentation => service.reply (.plain 200 "")
    | .wrongMethod => service.reply (.detail 405 (.str "Method Not Allowed"))
    | .redirect => service.reply (.plain 307 "")
    | .unknown => service.reply (.detail 404 (.str "Not Found"))

end Service

end Workflow.Http
