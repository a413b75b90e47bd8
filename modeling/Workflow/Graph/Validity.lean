import Workflow.Graph.Basic
import Workflow.Error

/-!
# Valid graphs

A graph is valid when its node ids are distinct and every edge joins two different nodes of it.
Repeated ids are reported before edges, and edges in their order.
-/

namespace Workflow.Graph

/-- The first id that already occurred before it. -/
def firstRepeated? (seen : List String) : List String → Option String
  | [] => none
  | id :: rest => if seen.contains id then some id else firstRepeated? (id :: seen) rest

/-- What is wrong with an edge between nodes with the given ids: an unknown source counts before an
unknown target, and that before a connection of a node with itself. -/
def edgeProblem? (ids : List String) (edge : Edge) : Option EdgeProblem :=
  if !ids.contains edge.source then some (.unknownSource edge.source)
  else if !ids.contains edge.target then some (.unknownTarget edge.target)
  else if edge.source = edge.target then some .selfConnection
  else none

/-- The first thing that is wrong with a graph, cycles aside. -/
def firstProblem? (graph : Graph) : Option CompileError :=
  match firstRepeated? [] graph.ids with
  | some id => some (.duplicateNode id)
  | none =>
    graph.edges.findSome? fun edge =>
      (edgeProblem? graph.ids edge).map (.danglingEdge edge.id)

/-- Refuse a graph that is not valid. -/
def validate (graph : Graph) : Except CompileError Unit :=
  match graph.firstProblem? with
  | some problem => .error problem
  | none => .ok ()

end Workflow.Graph
