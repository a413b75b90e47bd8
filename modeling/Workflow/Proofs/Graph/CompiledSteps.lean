import Workflow.Proofs.Graph.TopologicalOrder
import Workflow.Proofs.Template.Reference
import Workflow.Value.Lemmas

/-!
# Steps of a compiled graph

Every node of a compiled graph becomes one step, known by its position, and a node that leads to
another becomes an earlier step.
-/

namespace Workflow

theorem Kind.name_injective : Function.Injective Kind.name := by
  intro kind other same
  cases kind <;> cases other <;> first | rfl | simp [name] at same

/-- A node becomes a step that is named by its position and has the node's kind and, with the
placeholders moved, its fields. -/
theorem Node.toStep_eq_ok_iff {declared : List String} {position : Nat} {node : Node}
    {step : Step} :
    node.toStep declared position = .ok step ↔
      ∃ output, node.output = .ok output ∧
        step = {
          id := s!"step{position}"
          kind := node.kind.name
          fields := Template.canonicalFields declared (Object.erase node.fields "outputVar")
          output } := by
  simp only [toStep, Outcome.bind_eq_ok_iff, Outcome.pure_eq_ok_iff, @eq_comm _ step]

/-- The fields of a step are those of its node, with the templates in them made canonical. -/
theorem Node.field_of_toStep {declared : List String} {position : Nat} {node : Node} {step : Step}
    (made : node.toStep declared position = .ok step) {name : String} (other : name ≠ "outputVar") :
    Value.field step.fields name = Template.canonical declared (Value.field node.fields name) := by
  obtain ⟨output, -, rfl⟩ := toStep_eq_ok_iff.1 made
  have kept : Value.field (Object.erase node.fields "outputVar") name =
      Value.field node.fields name := by
    rw [Value.field, Object.get?_erase, if_neg (by simpa using other.symm), Value.field]
  rw [Template.field_canonicalFields, kept]

theorem Node.kind_of_toStep {declared : List String} {position : Nat} {node : Node} {step : Step}
    (made : node.toStep declared position = .ok step) : step.kind = node.kind.name := by
  obtain ⟨output, -, rfl⟩ := toStep_eq_ok_iff.1 made
  rfl

/-- The step of an input node binds `input`. -/
theorem Node.output_of_toStep {declared : List String} {position : Nat} {node : Node} {step : Step}
    (made : node.toStep declared position = .ok step) (kind_eq : node.kind = .input) :
    step.output = "input" := by
  obtain ⟨output, output_eq, rfl⟩ := toStep_eq_ok_iff.1 made
  rw [Node.output, kind_eq] at output_eq
  exact (Except.ok.inj output_eq).symm

namespace Graph

variable {graph : Graph} {steps : List Step}

/-- The node with an id becomes the step at a position. -/
def Becomes (graph : Graph) (steps : List Step) (id : String) (position : Nat) (step : Step) :
    Prop :=
  ∃ order node, graph.releaseOrder = .ok order ∧ order[position]? = some node ∧ node.id = id ∧
    steps[position]? = some step

theorem Becomes.stepAt {id : String} {position : Nat} {step : Step}
    (becomes : graph.Becomes steps id position step) : steps[position]? = some step := by
  obtain ⟨order, node, -, -, -, stepAt⟩ := becomes
  exact stepAt

/-- The step at a position of a compiled graph is made of the node there. -/
theorem toStep_of_compile (compiled : graph.compile = .ok steps) {order : List Node}
    (ordered : graph.releaseOrder = .ok order) {position : Nat} {node : Node}
    (nodeAt : order[position]? = some node) :
    ∃ step, steps[position]? = some step ∧
      node.toStep graph.declaredVariables (position + 1) = .ok step := by
  obtain ⟨-, order', ordered', built⟩ := compile_eq_ok_iff.1 compiled
  obtain rfl : order' = order := Except.ok.inj (ordered'.symm.trans ordered)
  obtain ⟨-, each⟩ := stepsFrom_eq_ok_iff.1 built
  rw [Nat.add_comm]
  exact each position node nodeAt

/-- The step at a position of a compiled graph is that of the node there, and has its place in its
id. -/
theorem step_of_compile (compiled : graph.compile = .ok steps) {order : List Node}
    (ordered : graph.releaseOrder = .ok order) {position : Nat} {node : Node}
    (nodeAt : order[position]? = some node) :
    ∃ step, steps[position]? = some step ∧ step.id = s!"step{position + 1}" ∧
      step.kind = node.kind.name := by
  obtain ⟨step, stepAt, made⟩ := toStep_of_compile compiled ordered nodeAt
  obtain ⟨output, -, rfl⟩ := Node.toStep_eq_ok_iff.1 made
  exact ⟨_, stepAt, rfl, rfl⟩

/-- The step that a node becomes is made of it. -/
theorem Becomes.toStep_eq (compiled : graph.compile = .ok steps) {node : Node}
    (member : node ∈ graph.nodes) {position : Nat} {step : Step}
    (becomes : graph.Becomes steps node.id position step) :
    node.toStep graph.declaredVariables (position + 1) = .ok step := by
  obtain ⟨valid, -⟩ := compile_eq_ok_iff.1 compiled
  obtain ⟨order, released, ordered, nodeAt, id_eq, stepAt⟩ := becomes
  have inGraph := (releaseOrder_isTopologicalOrder valid ordered).perm.mem_iff.1
    (List.mem_of_getElem? nodeAt)
  obtain rfl : released = node := List.inj_on_of_nodup_map valid.nodup inGraph member id_eq
  obtain ⟨made, madeAt, toStep_eq⟩ := toStep_of_compile compiled ordered nodeAt
  rwa [Option.some.inj (stepAt.symm.trans madeAt)]

/-- Every step of a compiled graph is made of a node. -/
theorem exists_toStep_of_mem (compiled : graph.compile = .ok steps) {step : Step}
    (member : step ∈ steps) :
    ∃ node ∈ graph.nodes, ∃ position, node.toStep graph.declaredVariables position = .ok step := by
  obtain ⟨valid, order, ordered, built⟩ := compile_eq_ok_iff.1 compiled
  obtain ⟨length_eq, -⟩ := stepsFrom_eq_ok_iff.1 built
  obtain ⟨position, stepAt⟩ := List.mem_iff_getElem?.1 member
  have inside : position < order.length := by
    rw [← length_eq]
    exact (List.getElem?_eq_some_iff.1 stepAt).1
  have nodeAt := List.getElem?_eq_getElem inside
  obtain ⟨made, madeAt, toStep_eq⟩ := toStep_of_compile compiled ordered nodeAt
  obtain rfl : made = step := Option.some.inj (madeAt.symm.trans stepAt)
  have inGraph := (releaseOrder_isTopologicalOrder valid ordered).perm.mem_iff.1
    (List.mem_of_getElem? nodeAt)
  exact ⟨_, inGraph, _, toStep_eq⟩

/-- A step of the input kind binds `input`. -/
theorem output_of_input_kind (compiled : graph.compile = .ok steps) {step : Step}
    (member : step ∈ steps) (kind_eq : step.kind = Kind.input.name) : step.output = "input" := by
  obtain ⟨node, -, position, toStep_eq⟩ := exists_toStep_of_mem compiled member
  rw [Node.kind_of_toStep toStep_eq] at kind_eq
  exact Node.output_of_toStep toStep_eq (Kind.name_injective kind_eq)

/-- Every node of a compiled graph becomes a step. -/
theorem exists_becomes (compiled : graph.compile = .ok steps) {node : Node}
    (member : node ∈ graph.nodes) :
    ∃ position step, graph.Becomes steps node.id position step := by
  obtain ⟨valid, order, ordered, -⟩ := compile_eq_ok_iff.1 compiled
  have inOrder := (releaseOrder_isTopologicalOrder valid ordered).perm.mem_iff.2 member
  obtain ⟨position, nodeAt⟩ := List.mem_iff_getElem?.1 inOrder
  obtain ⟨step, stepAt, -, -⟩ := step_of_compile compiled ordered nodeAt
  exact ⟨position, step, order, node, ordered, nodeAt, rfl, stepAt⟩

/-- The steps of a compiled graph are told apart by their ids. -/
theorem position_eq_of_id_eq (compiled : graph.compile = .ok steps) {i j : Nat}
    {first second : Step} (firstAt : steps[i]? = some first) (secondAt : steps[j]? = some second)
    (same : first.id = second.id) : i = j := by
  obtain ⟨valid, order, ordered, built⟩ := compile_eq_ok_iff.1 compiled
  obtain ⟨length_eq, -⟩ := stepsFrom_eq_ok_iff.1 built
  have id_of : ∀ (k : Nat) (step : Step), steps[k]? = some step → step.id = s!"step{k + 1}" := by
    intro k step stepAt
    have inside : k < order.length := length_eq ▸ (List.getElem?_eq_some_iff.1 stepAt).1
    obtain ⟨step', stepAt', id_eq, -⟩ :=
      step_of_compile compiled ordered (List.getElem?_eq_getElem inside)
    obtain rfl := Option.some.inj (stepAt.symm.trans stepAt')
    exact id_eq
  rw [id_of i first firstAt, id_of j second secondAt] at same
  have numbers : (i + 1).repr = (j + 1).repr := (String.append_right_inj "step").1 same
  have read := congrArg (fun digits => Nat.ofDigitChars 10 digits.toList 0) numbers
  simpa using read

/-- A node that leads to another becomes an earlier step of its own kind. -/
theorem Becomes.of_reaches (compiled : graph.compile = .ok steps) {source target : String}
    (path : graph.Reaches source target) {position : Nat} {step : Step}
    (becomes : graph.Becomes steps target position step) :
    ∃ earlier sourceStep, earlier < position ∧ graph.Becomes steps source earlier sourceStep ∧
      ∀ node ∈ graph.nodes, node.id = source → sourceStep.kind = node.kind.name := by
  obtain ⟨valid, order, ordered, -⟩ := compile_eq_ok_iff.1 compiled
  obtain ⟨order', targetNode, ordered', targetAt, target_eq, -⟩ := becomes
  obtain rfl : order' = order := Except.ok.inj (ordered'.symm.trans ordered)
  have ids_eq := map_id_releaseOrder valid ordered
  have released : graph.releasedIds[position]? = some target := by
    rw [← ids_eq, List.getElem?_map, targetAt, Option.map_some, target_eq]
  obtain ⟨earlier, later, smaller, sourceAt, laterAt⟩ :=
    path.standsBefore valid (List.mem_of_getElem? released)
  obtain rfl : later = position :=
    (List.getElem?_inj (List.getElem?_eq_some_iff.1 laterAt).1 (nodup_releasedIds valid)).1
      (laterAt.trans released.symm)
  rw [← ids_eq, List.getElem?_map, Option.map_eq_some_iff] at sourceAt
  obtain ⟨sourceNode, sourceAt, source_eq⟩ := sourceAt
  obtain ⟨sourceStep, stepAt, -, kind_eq⟩ := step_of_compile compiled ordered sourceAt
  refine ⟨earlier, sourceStep, smaller, ⟨order', sourceNode, ordered, sourceAt, source_eq, stepAt⟩,
    ?_⟩
  intro node member id_eq
  have inGraph := (releaseOrder_isTopologicalOrder valid ordered).perm.mem_iff.1
    (List.mem_of_getElem? sourceAt)
  obtain rfl : sourceNode = node :=
    List.inj_on_of_nodup_map valid.nodup inGraph member (source_eq.trans id_eq.symm)
  exact kind_eq

end Graph

end Workflow
