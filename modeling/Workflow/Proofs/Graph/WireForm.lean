import Workflow.Graph.Record
import Workflow.Proofs.Graph.CompiledSteps
import Workflow.Proofs.Value.ReadBack

/-!
# Reading what was written

A graph whose fields hold only values that JSON has is read back from its wire form, and so are the
steps that it compiles to.  Both can be written as long as no field is too high, and as long as no
integer has too many digits their wire forms are read back from JSON texts, in whatever style and
whatever the depths are that a writer and a reader reach.
-/

namespace Workflow

open Record (Checked)

/-- A list is read back when each of its items is. -/
theorem Record.list_map {α : Type} {write : α → Value} {read : Value → Checked α} {items : List α}
    (back : ∀ item ∈ items, read (write item) = .ok item) :
    list read (.arr (items.map write)) = .ok items := by
  have readFrom (index : Nat) : itemsFrom read index (items.map write) = .ok items := by
    induction items generalizing index with
    | nil => rfl
    | cons item rest ih =>
        have later := ih (fun item member => back item (List.mem_cons_of_mem _ member)) (index + 1)
        rw [List.map_cons, itemsFrom, back item List.mem_cons_self, later]
        rfl
  exact readFrom 0

/-! ## Graphs -/

/-- Whether all fields of a graph hold values that JSON has. -/
def Graph.isJson (graph : Graph) : Bool := graph.nodes.all fun node => Object.isJson node.fields

/-- Whether no integer in the fields of a graph has too many digits. -/
def Graph.integersFit (graph : Graph) : Bool :=
  graph.nodes.all fun node => Object.integersFit node.fields

theorem Node.read_toValue (rule : Record.Rule) {node : Node}
    (json : Object.isJson node.fields = true) :
    Record.model rule Node.read node.toValue = .ok node := by
  rw [toValue, Value.strict_of_isJson json]
  obtain ⟨id, kind, fields⟩ := node
  cases kind <;> rfl

theorem Edge.read_toValue (rule : Record.Rule) (edge : Edge) :
    Record.model rule Edge.read edge.toValue = .ok edge :=
  rfl

/-- A graph of values that JSON has is read back from its wire form. -/
theorem Graph.read_toValue (rule : Record.Rule) {graph : Graph} (json : graph.isJson = true) :
    Graph.read rule graph.toValue = .ok graph := by
  have nodes := Record.list_map fun node member =>
    Node.read_toValue rule (List.all_eq_true.1 json node member)
  have edges := @Record.list_map _ _ _ graph.edges fun edge _ => Edge.read_toValue rule edge
  have read_eq : Graph.read rule graph.toValue =
      Checked.apply
        (Checked.both Graph.mk (.ok graph.name)
          ((Record.list (Record.model rule Node.read) (.arr (graph.nodes.map Node.toValue))).within
            (.field "nodes")))
        ((Record.list (Record.model rule Edge.read) (.arr (graph.edges.map Edge.toValue))).within
          (.field "edges")) :=
    rfl
  rw [read_eq, nodes, edges]
  rfl

theorem Graph.isPortable_toValue {graph : Graph} (json : graph.isJson = true)
    (short : graph.integersFit = true) : graph.toValue.IsPortable := by
  have node_portable (node : Node) (member : node ∈ graph.nodes) : node.toValue.IsPortable := by
    have fields := Value.isPortable_of_isJson (List.all_eq_true.1 json node member)
      (List.all_eq_true.1 short node member)
    rw [Node.toValue, Value.strict_of_isJson (List.all_eq_true.1 json node member)]
    refine .obj rfl ?_
    simpa [Value.IsPortable.str] using fields
  have edge_portable (edge : Edge) : edge.toValue.IsPortable := by
    refine .obj rfl ?_
    simp [Value.IsPortable.str]
  refine .obj rfl ?_
  simp only [List.forall_mem_cons]
  exact ⟨.str _, .arr (List.forall_mem_map.2 node_portable),
    .arr (List.forall_mem_map.2 fun edge _ => edge_portable edge), nofun⟩

section

variable {style : Json.Style} {writing reading : Nat}

/-- A graph that is not too high and has no integer of too many digits is written as a JSON text and
read back. -/
theorem Graph.exists_text (faithful : style.IsFaithful) {graph : Graph}
    (json : graph.isJson = true) (short : graph.integersFit = true) (fits : graph.fits = true)
    (written_low : graph.toValue.nesting ≤ writing) (read_low : graph.toValue.nesting ≤ reading) :
    ∃ wire text, graph.write = .ok wire ∧ Json.writeWith style writing wire = .ok text ∧
      Json.read text reading = .ok wire ∧ ∀ rule, Graph.read rule wire = .ok graph := by
  obtain ⟨text, written, read⟩ :=
    Json.exists_read_eq faithful (graph.isPortable_toValue json short) written_low read_low
  exact ⟨graph.toValue, text, by rw [write, Fault.unlessTooHigh, if_pos fits], written, read,
    fun rule => Graph.read_toValue rule json⟩

end

/-! ## Steps -/

theorem Step.read_toValue (rule : Record.Rule) {step : Step}
    (json : Object.isJson step.fields = true) : Step.read rule step.toValue = .ok step := by
  rw [toValue, Value.strict_of_isJson json]
  rfl

namespace Graph

variable {graph : Graph} {steps : List Step}

/-- The fields of a step are those of a node, with the templates in them made canonical. -/
theorem fields_of_mem_compile (compiled : graph.compile = .ok steps) {step : Step}
    (member : step ∈ steps) :
    ∃ node ∈ graph.nodes, ∃ declared,
      step.fields = Template.canonicalFields declared (Object.erase node.fields "outputVar") := by
  obtain ⟨node, inGraph, position, toStep_eq⟩ := exists_toStep_of_mem compiled member
  obtain ⟨output, -, rfl⟩ := Node.toStep_eq_ok_iff.1 toStep_eq
  exact ⟨node, inGraph, _, rfl⟩

/-- Compiling leaves values that JSON has. -/
theorem isJson_of_mem_compile (compiled : graph.compile = .ok steps) (json : graph.isJson = true)
    {step : Step} (member : step ∈ steps) : Object.isJson step.fields = true := by
  obtain ⟨node, inGraph, declared, fields_eq⟩ := fields_of_mem_compile compiled member
  have fewer := Object.isJson_erase (List.all_eq_true.1 json node inGraph) "outputVar"
  rw [fields_eq]
  exact (Template.isJson_canonical declared (.obj _)).trans fewer

/-- Compiling changes no integers. -/
theorem integersFit_of_mem_compile (compiled : graph.compile = .ok steps)
    (short : graph.integersFit = true) {step : Step} (member : step ∈ steps) :
    Object.integersFit step.fields = true := by
  obtain ⟨node, inGraph, declared, fields_eq⟩ := fields_of_mem_compile compiled member
  have fewer := Object.integersFit_erase (List.all_eq_true.1 short node inGraph) "outputVar"
  rw [fields_eq]
  exact (Template.integersFit_canonical declared (.obj _)).trans fewer

/-- Compiling makes no field higher. -/
theorem listFits_of_compile (compiled : graph.compile = .ok steps) (fits : graph.fits = true) :
    Step.listFits steps = true := by
  refine List.all_eq_true.2 fun step member => ?_
  obtain ⟨node, inGraph, declared, fields_eq⟩ := fields_of_mem_compile compiled member
  have below : Object.fits node.fields = true := List.all_eq_true.1 fits node inGraph
  have fewer := Object.fieldsHeight_erase node.fields "outputVar"
  simp only [Object.fits, decide_eq_true_eq] at below ⊢
  rw [fields_eq, Template.fieldsHeight_canonical]
  exact fewer.trans below

/-- The steps that a graph compiles to are nested no deeper than the graph is. -/
theorem nesting_listToValue_le (compiled : graph.compile = .ok steps) (json : graph.isJson = true) :
    (Step.listToValue steps).nesting ≤ graph.toValue.nesting := by
  have bound : ∀ step ∈ steps, step.toValue.nesting ≤
      Value.itemsNesting (graph.nodes.map Node.toValue) := by
    intro step member
    obtain ⟨node, inGraph, declared, fields_eq⟩ := fields_of_mem_compile compiled member
    have fewer := Object.fieldsNesting_erase node.fields "outputVar"
    have within : node.toValue.nesting ≤ Value.itemsNesting (graph.nodes.map Node.toValue) :=
      Value.itemsNesting_le_iff.1 (Nat.le_refl _) _ (List.mem_map_of_mem inGraph)
    rw [Node.toValue, Value.strict_of_isJson (List.all_eq_true.1 json node inGraph)] at within
    rw [Step.toValue, Value.strict_of_isJson (isJson_of_mem_compile compiled json member), fields_eq]
    simp only [Value.nesting, Value.fieldsNesting, Template.fieldsNesting_canonical] at within ⊢
    omega
  have steps_le := Value.itemsNesting_le_iff.2 (List.forall_mem_map.2 bound)
  simp only [Step.listToValue, toValue, Value.nesting, Value.fieldsNesting]
  omega

/-- The steps that a graph compiles to are written as a JSON text and read back. -/
theorem exists_stepsText {style : Json.Style} {writing reading : Nat} (faithful : style.IsFaithful)
    (compiled : graph.compile = .ok steps) (json : graph.isJson = true)
    (short : graph.integersFit = true) (fits : graph.fits = true)
    (written_low : graph.toValue.nesting ≤ writing) (read_low : graph.toValue.nesting ≤ reading) :
    ∃ wire text, Step.writeList steps = .ok wire ∧ Json.writeWith style writing wire = .ok text ∧
      Json.read text reading = .ok wire ∧
      ∀ rule, Record.list (Step.read rule) wire = .ok steps := by
  have step_json {step : Step} := @isJson_of_mem_compile graph steps compiled json step
  have portable (step : Step) (member : step ∈ steps) : step.toValue.IsPortable := by
    have fields := Value.isPortable_of_isJson (step_json member)
      (integersFit_of_mem_compile compiled short member)
    rw [Step.toValue, Value.strict_of_isJson (step_json member)]
    refine .obj rfl ?_
    simpa [Value.IsPortable.str] using fields
  have lower := nesting_listToValue_le compiled json
  obtain ⟨text, written, read⟩ := Json.exists_read_eq faithful (.arr (List.forall_mem_map.2 portable))
    (Nat.le_trans lower written_low) (Nat.le_trans lower read_low)
  have writable := listFits_of_compile compiled fits
  refine ⟨Step.listToValue steps, text,
    by rw [Step.writeList, Fault.unlessTooHigh, if_pos writable], written, read, fun rule => ?_⟩
  exact Record.list_map fun step member => Step.read_toValue rule (step_json member)

end Graph

end Workflow
