import Workflow.Graph.Compile
import Workflow.Proofs.Graph.Release
import Workflow.Proofs.Outcome

/-!
# Topological order

Nodes are released in a topological order, those that no cycle holds back and only these, and so all
of them exactly when the graph is acyclic.  The compiled form of a graph follows that order, step by
node.
-/

namespace Workflow.Graph

open Relation (TransGen)

variable {graph : Graph}

theorem StandsBefore.trans {α : Type} {items : List α} (distinct : items.Nodup)
    {first middle last : α} (left : StandsBefore items first middle)
    (right : StandsBefore items middle last) : StandsBefore items first last := by
  obtain ⟨i, j, ij, firstAt, middleAt⟩ := left
  obtain ⟨j', k, jk, middleAt', lastAt⟩ := right
  obtain ⟨inside, _⟩ := List.getElem?_eq_some_iff.1 middleAt
  have same : j = j' := (List.getElem?_inj inside distinct).1 (middleAt.trans middleAt'.symm)
  exact ⟨i, k, by omega, firstAt, lastAt⟩

theorem not_standsBefore_self {α : Type} {items : List α} (distinct : items.Nodup) (item : α) :
    ¬ StandsBefore items item item := by
  rintro ⟨i, j, ij, firstAt, secondAt⟩
  obtain ⟨inside, _⟩ := List.getElem?_eq_some_iff.1 firstAt
  have same : i = j := (List.getElem?_inj inside distinct).1 (firstAt.trans secondAt.symm)
  omega

/-- What leads to a released node is released before it, however long the way. -/
theorem Reaches.standsBefore (valid : graph.Valid) {source target : String}
    (reaches : graph.Reaches source target) (member : target ∈ graph.releasedIds) :
    StandsBefore graph.releasedIds source target := by
  induction reaches with
  | single precedes => exact standsBefore_releasedIds valid precedes member
  | @tail middle target _ precedes ih =>
      have middleMem := ((mem_releasedIds_iff valid target).1 member).2 middle precedes
      exact (ih middleMem).trans (nodup_releasedIds valid)
        (standsBefore_releasedIds valid precedes member)

/-- The nodes of a graph in an order in which every edge leads forward. -/
structure IsTopologicalOrder (graph : Graph) (order : List Node) : Prop where
  perm : order.Perm graph.nodes
  forward : ∀ edge ∈ graph.edges, StandsBefore (order.map (·.id)) edge.source edge.target

/-! ## Release of all nodes -/

theorem releasedIds_subset (valid : graph.Valid) : graph.releasedIds ⊆ graph.ids :=
  fun id member => ((mem_releasedIds_iff valid id).1 member).1

/-- Exactly those nodes are released that no cycle holds back. -/
theorem mem_releasedIds_iff_not_heldBack (valid : graph.Valid) (id : String) :
    id ∈ graph.releasedIds ↔ id ∈ graph.ids ∧ ¬ graph.HeldBack id := by
  have not_released : ∀ {looping : String}, graph.Reaches looping looping →
      looping ∉ graph.releasedIds := by
    intro looping cycle member
    exact not_standsBefore_self (nodup_releasedIds valid) looping (cycle.standsBefore valid member)
  constructor
  · intro member
    refine ⟨releasedIds_subset valid member, ?_⟩
    rintro (cycle | ⟨looping, cycle, path⟩)
    · exact not_released cycle member
    · rcases path.standsBefore valid member with ⟨i, -, -, loopingAt, -⟩
      exact not_released cycle (List.mem_of_getElem? loopingAt)
  · rintro ⟨known, free⟩
    by_contra unreleased
    -- The walk back from an unreleased node along unreleased ones would have a beginning.
    let chosen : Set String :=
      {other | (other ∈ graph.ids ∧ other ∉ graph.releasedIds) ∧
        (other = id ∨ graph.Reaches other id)}
    have finite : chosen.Finite := graph.ids.finite_toSet.subset fun other chosen => chosen.1.1
    have loopless : ∀ other ∈ chosen, ¬ graph.Reaches other other := by
      rintro other ⟨-, rfl | path⟩ cycle
      · exact free (Or.inl cycle)
      · exact free (Or.inr ⟨other, cycle, path⟩)
    rcases exists_first finite ⟨id, ⟨known, unreleased⟩, Or.inl rfl⟩ loopless with
      ⟨first, ⟨⟨firstIn, firstOut⟩, path⟩, least⟩
    apply firstOut
    refine (mem_releasedIds_iff valid first).2 ⟨firstIn, ?_⟩
    intro source precedes
    by_contra sourceOut
    have sourceIn : source ∈ graph.ids := by
      rcases precedes with ⟨edge, edgeMem, rfl, -⟩
      exact valid.source_mem edge edgeMem
    have leads : graph.Reaches source id := by
      rcases path with rfl | path
      · exact TransGen.single precedes
      · exact TransGen.head precedes path
    exact least source ⟨⟨sourceIn, sourceOut⟩, Or.inr leads⟩ precedes

theorem releasedIds_perm_of_acyclic (valid : graph.Valid) (acyclic : graph.Acyclic) :
    graph.releasedIds.Perm graph.ids := by
  refine (List.perm_ext_iff_of_nodup (nodup_releasedIds valid) valid.nodup).2 fun id => ?_
  rw [mem_releasedIds_iff_not_heldBack valid]
  exact and_iff_left (acyclic.not_heldBack id)

/-- As many nodes are released as there are exactly when the graph is acyclic. -/
theorem length_releasedIds_eq_iff (valid : graph.Valid) :
    graph.releasedIds.length = graph.nodes.length ↔ graph.Acyclic := by
  have length_ids : graph.ids.length = graph.nodes.length := List.length_map ..
  constructor
  · intro length_eq id cycle
    have perm : graph.releasedIds.Perm graph.ids :=
      (List.subperm_of_subset (nodup_releasedIds valid) (releasedIds_subset valid)).perm_of_length_le
        (by omega)
    have member : id ∈ graph.ids := by
      obtain ⟨_, _, edge, edgeMem, _, rfl⟩ := TransGen.tail'_iff.1 cycle
      exact valid.target_mem edge edgeMem
    exact not_standsBefore_self (nodup_releasedIds valid) id
      (cycle.standsBefore valid (perm.mem_iff.2 member))
  · intro acyclic
    rw [(releasedIds_perm_of_acyclic valid acyclic).length_eq, length_ids]

/-! ## Nodes by their ids -/

theorem node?_eq_some_of_mem (valid : graph.Valid) {node : Node} (member : node ∈ graph.nodes) :
    graph.node? node.id = some node := by
  have distinct : (graph.nodes.map (·.id)).Nodup := valid.nodup
  unfold node?
  cases found : graph.nodes.find? (·.id = node.id) with
  | none =>
      have absent := List.find?_eq_none.1 found node member
      simp at absent
  | some other =>
      have same : other.id = node.id := by simpa using List.find?_some found
      exact congrArg some
        (List.inj_on_of_nodup_map distinct (List.mem_of_find?_eq_some found) member same)

theorem filterMap_node?_ids (valid : graph.Valid) :
    graph.ids.filterMap graph.node? = graph.nodes := by
  rw [ids, List.filterMap_map]
  have found : ∀ node ∈ graph.nodes, (graph.node? ∘ fun node => node.id) node = some node :=
    fun node member => node?_eq_some_of_mem valid member
  rw [List.filterMap_congr found, List.filterMap_some]

theorem map_id_filterMap_node? {ids : List String} (known : ids ⊆ graph.ids) :
    (ids.filterMap graph.node?).map (·.id) = ids := by
  induction ids with
  | nil => rfl
  | cons id rest ih =>
      have found : ∃ node, graph.node? id = some node ∧ node.id = id := by
        obtain ⟨node, member, same⟩ := List.mem_map.1 (known List.mem_cons_self)
        cases search : graph.node? id with
        | none =>
            have absent := List.find?_eq_none.1 search node member
            simp [same] at absent
        | some other =>
            have matching : other.id = id := by simpa using List.find?_some search
            exact ⟨other, rfl, matching⟩
      obtain ⟨node, search, rfl⟩ := found
      rw [List.filterMap_cons_some search, List.map_cons,
        ih fun other member => known (List.mem_cons_of_mem _ member)]

theorem releaseOrder_eq_ok_iff (order : List Node) :
    graph.releaseOrder = .ok order ↔
      graph.releasedIds.length = graph.nodes.length ∧
        graph.releasedIds.filterMap graph.node? = order := by
  unfold releaseOrder
  dsimp only
  split <;> simp_all

/-- The only error in the order of release is a cycle. -/
theorem releaseOrder_eq_cycle_iff :
    (∃ nodes, graph.releaseOrder = .error (.cycle nodes)) ↔
      graph.releasedIds.length ≠ graph.nodes.length := by
  unfold releaseOrder
  dsimp only
  split <;> simp_all

/-- The ids of the nodes in the order of their release. -/
theorem map_id_releaseOrder (valid : graph.Valid) {order : List Node}
    (ordered : graph.releaseOrder = .ok order) : order.map (·.id) = graph.releasedIds := by
  obtain ⟨_, rfl⟩ := (releaseOrder_eq_ok_iff order).1 ordered
  exact map_id_filterMap_node? (releasedIds_subset valid)

theorem releaseOrder_isTopologicalOrder (valid : graph.Valid) {order : List Node}
    (ordered : graph.releaseOrder = .ok order) : graph.IsTopologicalOrder order := by
  have order_ids := map_id_releaseOrder valid ordered
  obtain ⟨complete, order_eq⟩ := (releaseOrder_eq_ok_iff order).1 ordered
  have acyclic := (length_releasedIds_eq_iff valid).1 complete
  have perm := releasedIds_perm_of_acyclic valid acyclic
  constructor
  · rw [← order_eq, ← filterMap_node?_ids valid]
    exact perm.filterMap graph.node?
  · intro edge member
    rw [order_ids]
    exact standsBefore_releasedIds valid ⟨edge, member, rfl, rfl⟩
      (perm.mem_iff.2 (valid.target_mem edge member))

/-! ## Compiled graphs -/

theorem stepsFrom_eq_ok_iff {declared : List String} {position : Nat} {nodes : List Node}
    {steps : List Step} :
    stepsFrom declared position nodes = .ok steps ↔
      steps.length = nodes.length ∧ ∀ (k : Nat) (node : Node), nodes[k]? = some node →
        ∃ step, steps[k]? = some step ∧ node.toStep declared (position + k) = .ok step := by
  induction nodes generalizing position steps with
  | nil =>
      rw [stepsFrom, Except.ok.injEq, eq_comm, List.length_nil, List.length_eq_zero_iff]
      simp
  | cons node rest ih =>
      simp only [stepsFrom, Outcome.bind_eq_ok_iff, ih]
      constructor
      · rintro ⟨step, compiled, others, ⟨length_eq, each⟩, built⟩
        obtain rfl : step :: others = steps := Except.ok.inj built
        refine ⟨by simp [length_eq], ?_⟩
        rintro (_ | k) other found
        · obtain rfl : node = other := by simpa using found
          exact ⟨step, rfl, compiled⟩
        · obtain ⟨next, nextAt, nextCompiled⟩ := each k other (by simpa using found)
          exact ⟨next, by simpa using nextAt, by rwa [← Nat.add_assoc, Nat.add_right_comm]⟩
      · rintro ⟨length_eq, each⟩
        obtain ⟨step, stepAt, compiled⟩ := each 0 node rfl
        cases steps with
        | nil => simp at stepAt
        | cons first others =>
            obtain rfl : first = step := by simpa using stepAt
            refine ⟨first, compiled, others, ⟨by simpa using length_eq, ?_⟩, rfl⟩
            intro k other found
            obtain ⟨next, nextAt, nextCompiled⟩ := each (k + 1) other (by simpa using found)
            exact ⟨next, by simpa using nextAt, by rwa [Nat.add_right_comm, Nat.add_assoc]⟩

/-- A graph compiles exactly when it is valid, has an order of release and each of its nodes
becomes a step at its place. -/
theorem compile_eq_ok_iff {steps : List Step} :
    graph.compile = .ok steps ↔
      graph.Valid ∧ ∃ order, graph.releaseOrder = .ok order ∧
        stepsFrom graph.declaredVariables 1 order = .ok steps := by
  simp only [compile, Outcome.bind_eq_ok_iff, Outcome.mapError_eq_ok_iff]
  constructor
  · rintro ⟨_, valid, rest⟩
    exact ⟨(validate_eq_ok_iff graph).1 valid, rest⟩
  · rintro ⟨valid, rest⟩
    exact ⟨(), (validate_eq_ok_iff graph).2 valid, rest⟩

/-- A valid graph has an order of release exactly when it is acyclic, and that order is topological;
a graph with a cycle is refused as such.  The compiled form of a graph has one step for each node,
and its steps are those of the nodes in such an order. -/
theorem releaseOrder_topological (graph : Graph) :
    (graph.validate = .ok () →
      ((∃ order, graph.releaseOrder = .ok order) ↔ graph.Acyclic) ∧
      (∀ order, graph.releaseOrder = .ok order → graph.IsTopologicalOrder order) ∧
      ((∃ nodes, graph.releaseOrder = .error (.cycle nodes)) ↔ ¬ graph.Acyclic)) ∧
    ∀ steps, graph.compile = .ok steps →
      ∃ order, graph.releaseOrder = .ok order ∧ graph.IsTopologicalOrder order ∧
        steps.length = graph.nodes.length ∧
        ∀ (k : Nat) (node : Node), order[k]? = some node →
          ∃ step, steps[k]? = some step ∧
            node.toStep graph.declaredVariables (k + 1) = .ok step := by
  constructor
  · intro validated
    have valid := (validate_eq_ok_iff graph).1 validated
    refine ⟨?_, fun order => releaseOrder_isTopologicalOrder valid, ?_⟩
    · simp only [releaseOrder_eq_ok_iff, length_releasedIds_eq_iff valid]
      simp
    · rw [← length_releasedIds_eq_iff valid]
      exact releaseOrder_eq_cycle_iff
  · intro steps compiled
    obtain ⟨valid, order, ordered, built⟩ := compile_eq_ok_iff.1 compiled
    obtain ⟨length_eq, each⟩ := stepsFrom_eq_ok_iff.1 built
    have topological := releaseOrder_isTopologicalOrder valid ordered
    refine ⟨order, ordered, topological, length_eq.trans topological.perm.length_eq, ?_⟩
    intro k node found
    rw [Nat.add_comm k 1]
    exact each k node found

/-- Parallel edges delay a node until the last of them is counted off. -/
theorem releaseOrder_topological_parallel :
    let node (id : String) : Node := { id, kind := .find }
    let graph : Graph :=
      { nodes := [node "b", node "a", node "c"], edges := [⟨"1", "a", "b"⟩, ⟨"2", "a", "b"⟩] }
    let step (id : String) : Step := { id, kind := "dbFind", output := "foundData" }
    graph.validate = .ok () ∧ graph.compile = .ok [step "step1", step "step2", step "step3"] ∧
      graph.Acyclic ∧ graph.IsTopologicalOrder [node "a", node "c", node "b"] := by
  intro node graph step
  have valid : graph.validate = .ok () := rfl
  have compiled : graph.compile = .ok [step "step1", step "step2", step "step3"] := rfl
  have ordered : graph.releaseOrder = .ok [node "a", node "c", node "b"] := rfl
  obtain ⟨ofValid, ofCompiled⟩ := releaseOrder_topological graph
  obtain ⟨returns_iff, _, _⟩ := ofValid valid
  obtain ⟨order, order_eq, topological, _⟩ := ofCompiled _ compiled
  obtain rfl : order = [node "a", node "c", node "b"] :=
    Except.ok.inj (order_eq.symm.trans ordered)
  exact ⟨valid, compiled, returns_iff.1 ⟨_, ordered⟩, topological⟩

end Workflow.Graph
