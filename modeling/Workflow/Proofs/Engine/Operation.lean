import Workflow.Engine.Basic

/-!
# Operations on an engine

A history of an engine is made of the operations that are carried out on it, one after the other.
The clock, and whoever else uses its store, may change the world between two operations, and
anything may happen to its sink.
-/

namespace Workflow.Engine

/-- Keeping a graph touches nothing but the graphs. -/
theorem exists_createGraph (engine : Engine) (graph : Graph) :
    ∃ graphs, (engine.createGraph graph).2 = { engine with graphs } := by
  unfold createGraph
  split
  · exact ⟨engine.graphs, rfl⟩
  · exact ⟨_, rfl⟩

/-- Publishing a graph touches nothing but the publications. -/
theorem exists_publish (engine : Engine) (graphId name : String) :
    ∃ publications, (engine.publish graphId name).2 = { engine with publications } := by
  unfold publish
  split
  · exact ⟨engine.publications, rfl⟩
  · dsimp only
    split
    · exact ⟨engine.publications, rfl⟩
    · exact ⟨_, rfl⟩

/-- Running a graph that is kept is running its steps. -/
theorem runGraph_eq {engine : Engine} {id : String} {stored : StoredGraph}
    (known : engine.graph? id = some stored) (input headers : Value) :
    engine.runGraph id input headers = engine.runSteps stored.steps input headers (some id) := by
  rw [runGraph, known]

/-- Let something happen to the sink of an engine. -/
def onSink (engine : Engine) (happening : Sink → Sink) : Engine :=
  { engine with scene := { engine.scene with sink := happening engine.scene.sink } }

/-- The operations on an engine, and what happens to the world without it. -/
inductive Operation where
  | createGraph (graph : Graph)
  | publish (graphId name : String)
  | execute (steps : List Step) (input headers : Value) (executionId : Option String)
  | runSteps (steps : List Step) (input headers : Value) (graphId : Option String)
  | runGraph (id : String) (input headers : Value)
  | register (kind : String) (handler : Handler)
  | onWorld (happening : World → World)

/-- What an operation returns or raises. -/
inductive Answer where
  | stored (outcome : Except Graph.CompileFailure StoredGraph)
  | published (outcome : Except EngineError Publication)
  | executed (outcome : Except ExecutionFailure Result)
  | ran (outcome : Except ExecutionFailure Run)
  | done

/-- Perform an operation. -/
def perform (engine : Engine) : Operation → Answer × Engine
  | .createGraph graph =>
    let (outcome, engine) := engine.createGraph graph
    (.stored outcome, engine)
  | .publish graphId name =>
    let (outcome, engine) := engine.publish graphId name
    (.published outcome, engine)
  | .execute steps input headers executionId =>
    let (outcome, engine) := engine.execute steps input headers executionId
    (.executed outcome, engine)
  | .runSteps steps input headers graphId =>
    let (outcome, engine) := engine.runSteps steps input headers graphId
    (.ran outcome, engine)
  | .runGraph id input headers =>
    let (outcome, engine) := engine.runGraph id input headers
    (.ran outcome, engine)
  | .register kind handler =>
    (.done, { engine with registry := engine.registry.register kind handler })
  | .onWorld happening =>
    (.done, { engine with scene := { engine.scene with world := happening engine.scene.world } })

/-- Perform operations one after the other.  Before each of them something may happen to the sink: a
socket comes or goes, a connection breaks. -/
def performAll (happens : Nat → Sink → Sink) (engine : Engine) :
    List Operation → List Answer × Engine
  | [] => ([], engine)
  | operation :: rest =>
    let (answer, engine) := (engine.onSink (happens 0)).perform operation
    let (answers, engine) := performAll (fun position => happens (position + 1)) engine rest
    (answer :: answers, engine)

end Workflow.Engine
