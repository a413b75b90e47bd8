import Workflow.Graph.ReleaseOrder
import Workflow.Template.Canonical
import Workflow.Text.Blank

/-!
# Compiling graphs

The compiled form of a graph has one step for each node, in the order of release.  Placeholders for
variables that any input node declares are moved into the input namespace.
-/

namespace Workflow

/-- The name that one entry of an input node's variables declares. -/
def Node.declaredName? : Value → Option String
  | .obj declaration =>
    match Value.field declaration "name" with
    | .str name =>
      let stripped := Text.strip name
      if stripped = "" then none else some stripped
    | _ => none
  | _ => none

/-- The names that a node declares. -/
def Node.declaredNames (node : Node) : List String :=
  match node.kind, Value.field node.fields "variables" with
  | .input, .arr declarations => declarations.filterMap declaredName?
  | _, _ => []

/-- Add a name unless it is known already. -/
def Graph.addName (names : List String) (name : String) : List String :=
  if names.contains name then names else names ++ [name]

/-- The names that the input nodes of a graph declare, each once, in order of declaration. -/
def Graph.declaredVariables (graph : Graph) : List String :=
  (graph.nodes.flatMap Node.declaredNames).foldl addName []

/-- Why a graph has no compiled form: an error in the graph, or an output variable that is no
text. -/
inductive Graph.CompileFailure where
  | rejected (error : CompileError)
  | invalid (violations : List Record.Violation)

/-- The variable that a node's step binds. -/
def Node.output (node : Node) : Except Graph.CompileFailure String :=
  match node.kind.fixedOutput? with
  | some output => .ok output
  | none =>
    match (Value.field node.fields "outputVar").orElse (.str node.kind.defaultOutput) with
    | .str output => .ok output
    | _ => .error (.invalid [⟨.text, [.field "output_var"]⟩])

/-- The step that a node becomes at a position, counted from one. -/
def Node.toStep (declared : List String) (position : Nat) (node : Node) :
    Except Graph.CompileFailure Step := do
  let output ← node.output
  return {
    id := s!"step{position}"
    kind := node.kind.name
    fields := Template.canonicalFields declared (Object.erase node.fields "outputVar")
    output }

/-- The steps that nodes become, from a position on. -/
def Graph.stepsFrom (declared : List String) :
    Nat → List Node → Except Graph.CompileFailure (List Step)
  | _, [] => .ok []
  | position, node :: rest => do
    let step ← node.toStep declared position
    let steps ← stepsFrom declared (position + 1) rest
    return step :: steps

/-- The compiled form of a graph; there is no partial result. -/
def Graph.compile (graph : Graph) : Except Graph.CompileFailure (List Step) := do
  graph.validate.mapError .rejected
  let order ← graph.releaseOrder.mapError .rejected
  stepsFrom graph.declaredVariables 1 order

end Workflow
