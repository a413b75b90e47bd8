import Workflow.Graph.Basic
import Workflow.Record.Reader
import Workflow.Value.Height
import Workflow.Value.Strict

/-!
# Graphs and steps as records

The wire form of graphs and steps, and its reader.  A record has a wire form whatever it holds; it
can be written only if the free-form values in it are not too high.
-/

namespace Workflow

open Record (Checked FieldName)

/-- The kind that a value names. -/
def Kind.read (value : Value) : Checked Kind :=
  match value with
  | .str name =>
    match Kind.ofName? name with
    | some kind => .ok kind
    | none => .violated .choice
  | _ => .violated .choice

/-- Read the fields of a node. -/
def Node.read (fields : Object) : Checked Node :=
  Checked.apply
    (Checked.both (fun id kind fields => ⟨id, kind, fields⟩)
      (Record.required fields (.plain "id") Record.text)
      (Record.required fields (.plain "type") Kind.read))
    (Record.optional fields (.plain "fields") [] Record.object)

/-- Read the fields of an edge. -/
def Edge.read (fields : Object) : Checked Edge :=
  Checked.apply
    (Checked.both Edge.mk
      (Record.required fields (.plain "id") Record.text)
      (Record.required fields (.plain "source") Record.text))
    (Record.required fields (.plain "target") Record.text)

/-- Read the fields of a graph.  `rule` is what a node or edge that is no object violates. -/
def Graph.readFields (rule : Record.Rule) (fields : Object) : Checked Graph :=
  Checked.apply
    (Checked.both Graph.mk
      (Record.optional fields (.plain "name") "Untitled workflow" Record.text)
      (Record.optional fields (.plain "nodes") [] (Record.list (Record.model rule Node.read))))
    (Record.optional fields (.plain "edges") [] (Record.list (Record.model rule Edge.read)))

/-- Read a graph. -/
def Graph.read (rule : Record.Rule) : Value → Checked Graph :=
  Record.model rule (Graph.readFields rule)

/-- Read the fields of a step. -/
def Step.readFields (fields : Object) : Checked Step :=
  Checked.apply
    (Checked.apply
      (Checked.both Step.mk
        (Record.required fields (.plain "id") Record.text)
        (Record.required fields (.plain "kind") Record.text))
      (Record.optional fields ⟨"resolvedFields", "resolved_fields"⟩ [] Record.object))
    (Record.required fields ⟨"outputVar", "output_var"⟩ Record.text)

/-- Read a step. -/
def Step.read (rule : Record.Rule) : Value → Checked Step := Record.model rule Step.readFields

/-- The wire form of a node. -/
def Node.toValue (node : Node) : Value :=
  .obj [("id", .str node.id), ("type", .str node.kind.name),
    ("fields", Value.strict (.obj node.fields))]

/-- The wire form of an edge. -/
def Edge.toValue (edge : Edge) : Value :=
  .obj [("id", .str edge.id), ("source", .str edge.source), ("target", .str edge.target)]

/-- The wire form of a graph. -/
def Graph.toValue (graph : Graph) : Value :=
  .obj [("name", .str graph.name), ("nodes", .arr (graph.nodes.map Node.toValue)),
    ("edges", .arr (graph.edges.map Edge.toValue))]

/-- The wire form of a step. -/
def Step.toValue (step : Step) : Value :=
  .obj [("id", .str step.id), ("kind", .str step.kind),
    ("resolvedFields", Value.strict (.obj step.fields)), ("outputVar", .str step.output)]

/-- The wire form of a list of steps. -/
def Step.listToValue (steps : List Step) : Value := .arr (steps.map Step.toValue)

/-- Whether all steps of a list can be written. -/
def Step.listFits (steps : List Step) : Bool := steps.all fun step => Object.fits step.fields

/-- Write a list of steps. -/
def Step.writeList (steps : List Step) : Except Fault Value :=
  Fault.unlessTooHigh (Step.listFits steps) (Step.listToValue steps)

/-- Whether a graph can be written. -/
def Graph.fits (graph : Graph) : Bool := graph.nodes.all fun node => Object.fits node.fields

/-- Write a graph. -/
def Graph.write (graph : Graph) : Except Fault Value := Fault.unlessTooHigh graph.fits graph.toValue

end Workflow
