import Workflow.Engine.Run
import Workflow.Graph.Compile
import Workflow.Graph.Record
import Workflow.Slug

/-!
# The engine

The engine keeps compiled graphs, publications and runs, and executes steps in a scene.
-/

namespace Workflow

/-- A graph kept with its compiled form. -/
structure StoredGraph where
  id : String
  graph : Graph
  steps : List Step

/-- The wire form of a stored graph. -/
def StoredGraph.toObject (stored : StoredGraph) : Object :=
  [("graphId", .str stored.id), ("graph", stored.graph.toValue),
    ("steps", Step.listToValue stored.steps)]

/-- Whether a stored graph can be written. -/
def StoredGraph.fits (stored : StoredGraph) : Bool :=
  stored.graph.fits && Step.listFits stored.steps

/-- Write a stored graph. -/
def StoredGraph.write (stored : StoredGraph) : Except Fault Object :=
  Fault.unlessTooHigh stored.fits stored.toObject

/-- A stored graph exposed under a path. -/
structure Publication where
  graphId : String
  name : String
  slug : String
  path : String
deriving DecidableEq

namespace Publication

/-- The path under which a graph is exposed. -/
def pathOf (graphId slug : String) : String := "/run/" ++ graphId ++ "/" ++ slug

/-- The wire form of a publication. -/
def toObject (publication : Publication) : Object :=
  [("graphId", .str publication.graphId), ("name", .str publication.name),
    ("slug", .str publication.slug), ("path", .str publication.path)]

end Publication

/-- Why an engine refuses an operation. -/
inductive EngineError where
  | unknownGraph (id : String)
  | unusableName (name : String)
deriving DecidableEq

/-- The wording of a refusal. -/
def EngineError.message : EngineError → String
  | .unknownGraph id => s!"Graph {id} not found"
  | .unusableName name => s!"API name '{name}' does not produce a usable slug"

/-- Why an execution has no result. -/
inductive ExecutionFailure where
  | refused (error : EngineError)
  | fault (cause : Fault)
  | invalid (violations : List Record.Violation)

/-- The result of an execution.  A failure is written to the log first, so a message without a text
is a fault. -/
def Result.conclude (executionId : String) (progress : Progress) (stop : Option Execution.Stop) :
    Except ExecutionFailure Result :=
  let ending := (Result.ofEnding executionId progress stop).mapError .invalid
  match stop with
  | none => ending
  | some stop =>
    match stop.report.message.text with
    | .ok _ => ending
    | .error cause => .error (.fault cause)

/-- Graphs, publications, runs, handlers and collaborators, and the scene they act in. -/
structure Engine where
  graphs : List (String × StoredGraph) := []
  publications : List (String × Publication) := []
  runs : List (String × Run) := []
  registry : Registry Handler := .standard
  collaborators : Collaborators := {}
  scene : Scene := {}

namespace Engine

/-- The entry under a key. -/
def keyed {α : Type} (key : String) (entries : List (String × α)) : Option α :=
  (entries.find? (·.1 = key)).map (·.2)

/-- Put an entry under a key, in place of the one there is. -/
def putKeyed {α : Type} (key : String) (item : α) : List (String × α) → List (String × α)
  | [] => [(key, item)]
  | (known, old) :: rest =>
    if known = key then (known, item) :: rest else (known, old) :: putKeyed key item rest

/-- What was put under a key is found there, and everything else as before. -/
theorem keyed_putKeyed {α : Type} (key : String) (item : α) (entries : List (String × α))
    (wanted : String) :
    keyed wanted (putKeyed key item entries) =
      if key = wanted then some item else keyed wanted entries := by
  induction entries with
  | nil => by_cases same : key = wanted <;> simp [putKeyed, keyed, same]
  | cons entry rest ih =>
    obtain ⟨known, old⟩ := entry
    by_cases here : known = key
    · subst here
      by_cases same : known = wanted <;> simp [putKeyed, keyed, same]
    · by_cases found : known = wanted
      · subst found
        simp [putKeyed, keyed, here, Ne.symm here]
      · simp only [keyed] at ih
        simp [putKeyed, keyed, here, found, ih]

/-- A stored graph by id. -/
def graph? (engine : Engine) (id : String) : Option StoredGraph := keyed id engine.graphs

/-- A run by id. -/
def run? (engine : Engine) (id : String) : Option Run := keyed id engine.runs

/-- The publication of a graph under a slug. -/
def publication? (engine : Engine) (graphId slug : String) : Option Publication :=
  keyed (Publication.pathOf graphId slug) engine.publications

/-- Compile and keep a graph; a graph that does not compile is not kept. -/
def createGraph (engine : Engine) (graph : Graph) :
    Except Graph.CompileFailure StoredGraph × Engine :=
  match graph.compile with
  | .error failure => (.error failure, engine)
  | .ok steps =>
    let id := s!"graph_{engine.graphs.length + 1}"
    let stored : StoredGraph := { id, graph, steps }
    (.ok stored, { engine with graphs := putKeyed id stored engine.graphs })

/-- Expose a stored graph under the slug of a name. -/
def publish (engine : Engine) (graphId name : String) : Except EngineError Publication × Engine :=
  if (engine.graph? graphId).isNone then (.error (.unknownGraph graphId), engine)
  else
    let slug := Slug.ofName name
    if slug = "" then (.error (.unusableName name), engine)
    else
      let path := Publication.pathOf graphId slug
      let publication : Publication := { graphId, name, slug, path }
      (.ok publication,
        { engine with publications := putKeyed path publication engine.publications })

/-- Execute steps under an id, with an input and headers that have to denote objects. -/
def executeAs (engine : Engine) (steps : List Step) (input headers : Value)
    (executionId : String) : Except ExecutionFailure Result × Engine :=
  match Pairs.toObject headers, Pairs.toObject input with
  | .error cause, _ => (.error (.fault cause), engine)
  | .ok _, .error cause => (.error (.fault cause), engine)
  | .ok headers, .ok input =>
    let request : Request := { executionId, collaborators := engine.collaborators, headers }
    let ((progress, stop), scene) :=
      Execution.runFrom engine.registry request 0 steps (Execution.start input) engine.scene
    (Result.conclude executionId progress stop, { engine with scene })

/-- Draw an identifier for an execution. -/
def drawId (engine : Engine) : String × Engine :=
  let (number, world) := engine.scene.world.draw
  (Identifier.grouped number, { engine with scene := { engine.scene with world } })

/-- Execute steps; without an id, or with an empty one, an id is drawn. -/
def execute (engine : Engine) (steps : List Step) (input headers : Value)
    (executionId : Option String) : Except ExecutionFailure Result × Engine :=
  match executionId with
  | some id =>
    if id = "" then
      let (id, engine) := engine.drawId
      engine.executeAs steps input headers id
    else engine.executeAs steps input headers id
  | none =>
    let (id, engine) := engine.drawId
    engine.executeAs steps input headers id

/-- Keep a run. -/
def keepRun (engine : Engine) (run : Run) : Engine :=
  { engine with runs := putKeyed run.id run engine.runs }

/-- Execute steps as a run.  A run whose execution has no result stays as it was begun. -/
def runSteps (engine : Engine) (steps : List Step) (input headers : Value)
    (graphId : Option String) : Except ExecutionFailure Run × Engine :=
  let (id, engine) := engine.drawId
  let begun := Run.begin id graphId engine.scene.world.now
  let engine := engine.keepRun begun
  match engine.executeAs steps input headers id with
  | (.error failure, engine) => (.error failure, engine)
  | (.ok result, engine) =>
    let run := begun.complete result engine.scene.world.now
    let engine := engine.keepRun run
    (.ok run, { engine with scene := engine.scene.finish id run.status.name })

/-- Run a stored graph. -/
def runGraph (engine : Engine) (id : String) (input headers : Value) :
    Except ExecutionFailure Run × Engine :=
  match engine.graph? id with
  | none => (.error (.refused (.unknownGraph id)), engine)
  | some stored => engine.runSteps stored.steps input headers (some id)

/-- The number of entries in the results of all runs. -/
def totalEntries (engine : Engine) : Nat :=
  engine.runs.foldr (fun kept total => (kept.2.result.map (·.steps.length)).getD 0 + total) 0

/-- Counters for monitoring. -/
def stats (engine : Engine) : Object :=
  [("graphs", .ofNat engine.graphs.length), ("published", .ofNat engine.publications.length),
    ("runs", .ofNat engine.runs.length), ("step_kinds", .ofNat engine.registry.kinds.length),
    ("total_logs", .ofNat engine.totalEntries)]

/-- Act on the broadcaster behind the sink. -/
def withHub (engine : Engine) (act : Broadcaster → Broadcaster) : Engine :=
  match engine.scene.sink with
  | .broadcaster hub =>
    { engine with scene := { engine.scene with sink := .broadcaster (act hub) } }
  | _ => engine

end Engine

end Workflow
