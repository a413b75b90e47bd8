import Workflow.Kind
import Workflow.Value.Basic

/-!
# Graphs

A workflow as it is drawn: nodes that stand for operations, and edges that say which node comes
before which.
-/

namespace Workflow

/-- An operation placed in a graph. -/
structure Node where
  id : String
  kind : Kind
  fields : Object := []

/-- An edge from one node to another. -/
structure Edge where
  id : String
  source : String
  target : String
deriving DecidableEq

/-- A named graph. -/
structure Graph where
  name : String := "Untitled workflow"
  nodes : List Node := []
  edges : List Edge := []

namespace Graph

/-- The ids of the nodes, in order. -/
def ids (graph : Graph) : List String := graph.nodes.map (·.id)

/-- The node with an id. -/
def node? (graph : Graph) (id : String) : Option Node := graph.nodes.find? (·.id = id)

/-- The targets of the edges that leave a node, in the order of the edges. -/
def successors (graph : Graph) (id : String) : List String :=
  (graph.edges.filter (·.source = id)).map (·.target)

end Graph

/-- A step of a compiled graph.  Its kind is a name, since a step list that was kept may name a kind
that is no longer known. -/
structure Step where
  id : String
  kind : String
  fields : Object := []
  output : String

end Workflow
