import Workflow.Graph.Validity

/-!
# The order in which nodes are released

Nodes without incoming edges are released first, in the order of the graph.  Releasing a node counts
off its outgoing edges in their order, and a node whose last incoming edge is counted off joins the
queue.  In a graph with a cycle some nodes are never released.
-/

namespace Workflow.Graph

/-- The state of the release: the incoming edges of each node that are not yet counted off, the
nodes that wait in the queue, and the nodes released so far. -/
structure Release where
  degree : String → Int
  queue : List String
  released : List String

/-- The number of edges into a node. -/
def inDegree (graph : Graph) (id : String) : Int := graph.edges.countP (·.target = id)

namespace Release

/-- At the start the nodes without incoming edges wait. -/
def start (graph : Graph) : Release where
  degree := graph.inDegree
  queue := graph.ids.filter (graph.inDegree · = 0)
  released := []

/-- Count off one edge into `target`. -/
def countOff (state : Release) (target : String) : Release :=
  let remaining := state.degree target - 1
  { state with
    degree := fun id => if id = target then remaining else state.degree id
    queue := if remaining = 0 then state.queue ++ [target] else state.queue }

/-- Release the first node of the queue. -/
def next (graph : Graph) (state : Release) : Release :=
  match state.queue with
  | [] => state
  | id :: rest =>
    (graph.successors id).foldl countOff
      { state with queue := rest, released := state.released ++ [id] }

/-- Release up to `steps` nodes. -/
def run (graph : Graph) : Nat → Release → Release
  | 0, state => state
  | steps + 1, state => if state.queue.isEmpty then state else run graph steps (next graph state)

end Release

/-- The ids in the order of their release. -/
def releasedIds (graph : Graph) : List String :=
  (Release.run graph graph.nodes.length (Release.start graph)).released

/-- The nodes in the order of their release; a graph with a cycle has none. -/
def releaseOrder (graph : Graph) : Except CompileError (List Node) :=
  let released := graph.releasedIds
  if released.length ≠ graph.nodes.length then
    .error (.cycle (graph.ids.filter fun id => !released.contains id))
  else .ok (released.filterMap graph.node?)

end Workflow.Graph
