import Workflow.Handler.Access
import Workflow.Http.Message

/-!
# Routes

The operations of the service, and the paths and methods by which they are asked for.  A path that
several operations share goes to the first one with the request's method.  A path that is known only
with a slash more or fewer at its end is redirected.
-/

namespace Workflow.Http

/-- The operations of the service. -/
inductive Operation where
  | about
  | health
  | compile
  | createGraph
  | listGraphs
  | getGraph (id : String)
  | runGraph
  | executeSteps
  | publish (id : String)
  | runPublished (graphId slug : String)
  | getRun (id : String)
  | getLogs (id : String)
  | listCollections
  | listSteps
  | memory
  | demoSignup
deriving DecidableEq

/-- What is found under a path: an operation, or a page that describes the service. -/
inductive Resource where
  | operation (operation : Operation)
  | documentation
deriving DecidableEq

/-- What a path and a method lead to. -/
inductive Target where
  | operation (operation : Operation)
  | documentation
  | wrongMethod
  /-- The path would be known with a slash more, or without the slashes at its end. -/
  | redirect
  | unknown
deriving DecidableEq

/-- The resources of a path, by the method that asks for them, in order. -/
abbrev Resources := List (String × Resource)

/-- An operation under its method. -/
def asked (method : String) (operation : Operation) : Resources := [(method, .operation operation)]

/-- A word without one line end after it: the last word of a path may have it. -/
def bare (word : String) : String :=
  match word.toList.reverse with
  | '\n' :: rest => String.ofList rest.reverse
  | _ => word

/-- Segments whose last one is a word of the path, not an id. -/
def bareEnd : List String → List String
  | [] => []
  | [word] => [bare word]
  | segment :: rest => segment :: bareEnd rest

/-- The resources of a path below the service's own part, in order. -/
def resourcesBelow (segments : List String) : Resources :=
  if segments.contains "" then []
  else
    match segments with
    | ["graph", id] =>
      (if bare id = "compile" then asked "POST" .compile else []) ++
        (if bare id = "create" then asked "POST" .createGraph else []) ++
        asked "GET" (.getGraph id) ++
        (if bare id = "run" then asked "POST" .runGraph else [])
    | ["run", graphId, slug] => asked "POST" (.runPublished graphId slug)
    | ["runs", id] => asked "GET" (.getRun id)
    | _ =>
      match bareEnd segments with
      | ["graphs"] => asked "GET" .listGraphs
      | ["execute"] => asked "POST" .executeSteps
      | ["graph", id, "publish"] => asked "POST" (.publish id)
      | ["runs", id, "logs"] => asked "GET" (.getLogs id)
      | ["collections"] => asked "GET" .listCollections
      | ["steps"] => asked "GET" .listSteps
      | ["memory", "stats"] => asked "GET" .memory
      | ["demo", "signup"] => asked "POST" .demoSignup
      | _ => []

/-- The segments of a path that starts with a slash. -/
def segmentsOf (path : String) : Option (List String) :=
  match path.toList with
  | '/' :: rest => some ((splitAt '/' rest).map String.ofList)
  | _ => none

/-- The paths of the pages that describe the service. -/
def documentationPaths : List String :=
  ["/openapi.json", "/docs", "/docs/oauth2-redirect", "/redoc"]

/-- The resources of a path, in order. -/
def resourcesAt (start path : String) : Resources :=
  let below := match (Handler.after? start path).bind segmentsOf with
    | some segments => resourcesBelow segments
    | none => []
  (if documentationPaths.contains (bare path) then
      [("GET", .documentation), ("HEAD", .documentation)]
    else []) ++ below ++
    (if bare path = "/" then asked "GET" .about else []) ++
    (if bare path = "/health" then asked "GET" .health else [])

/-- A path without the slashes at its end, or with one when there is none. -/
def otherSpelling (path : String) : String :=
  match path.toList.reverse with
  | '/' :: rest => String.ofList (rest.dropWhile (· = '/')).reverse
  | _ => path ++ "/"

/-- What a request leads to; `start` is the part that the service's own paths start with. -/
def target (start method path : String) : Target :=
  let resources := resourcesAt start path
  match resources.find? (·.1 = method) with
  | some (_, .operation operation) => .operation operation
  | some (_, .documentation) => .documentation
  | none =>
    if !resources.isEmpty then .wrongMethod
    else if path ≠ "/" ∧ !(resourcesAt start (otherSpelling path)).isEmpty then .redirect
    else .unknown

end Workflow.Http
