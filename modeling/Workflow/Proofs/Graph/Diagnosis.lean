import Workflow.Proofs.Graph.Refusal

/-!
# What a refused graph is refused for

Three checks follow each other, and each names the first thing that it finds: a repeated id, an edge
that does not join two nodes, and the nodes that a cycle holds back.  Each is reported exactly when
the checks before it find nothing and it finds something, whatever the fields of the nodes are.
-/

namespace Workflow

/-- An edge joins two different ones of the nodes with the given ids. -/
structure Edge.Joins (edge : Edge) (ids : List String) : Prop where
  source_mem : edge.source ∈ ids
  target_mem : edge.target ∈ ids
  source_ne_target : edge.source ≠ edge.target

/-- What is wrong with an edge between nodes with the given ids. -/
inductive Edge.HasProblem (edge : Edge) (ids : List String) : EdgeProblem → Prop where
  | unknownSource (unknown : edge.source ∉ ids) : edge.HasProblem ids (.unknownSource edge.source)
  | unknownTarget (known : edge.source ∈ ids) (unknown : edge.target ∉ ids) :
      edge.HasProblem ids (.unknownTarget edge.target)
  | selfConnection (known : edge.source ∈ ids) (knownToo : edge.target ∈ ids)
      (same : edge.source = edge.target) : edge.HasProblem ids .selfConnection

namespace Graph

/-! ## The first offender -/

/-- The id at a place of a graph is the first that already stands before it. -/
structure FirstRepeatedAt (graph : Graph) (place : ℕ) (id : String) : Prop where
  id_at : graph.ids[place]? = some id
  repeated : id ∈ graph.ids.take place
  distinct : (graph.ids.take place).Nodup

/-- The edge at a place of a graph is the first that does not join two nodes, for a reason. -/
structure FirstDanglingAt (graph : Graph) (place : ℕ) (edge : Edge) (problem : EdgeProblem) :
    Prop where
  edge_at : graph.edges[place]? = some edge
  sound : ∀ earlier ∈ graph.edges.take place, earlier.Joins graph.ids
  problem : edge.HasProblem graph.ids problem

theorem firstRepeated?_eq_some_iff {seen ids : List String} {id : String} :
    firstRepeated? seen ids = some id ↔
      ∃ place : ℕ, ids[place]? = some id ∧ (id ∈ seen ∨ id ∈ ids.take place) ∧
        (ids.take place).Nodup ∧ ∀ other ∈ ids.take place, other ∉ seen := by
  induction ids generalizing seen with
  | nil => simp [firstRepeated?]
  | cons head rest ih =>
      by_cases known : head ∈ seen
      · simp only [firstRepeated?, List.contains_iff_mem, known, if_true, Option.some.injEq]
        constructor
        · rintro rfl
          exact ⟨0, rfl, Or.inl known, by simp, by simp⟩
        · rintro ⟨_ | place, idAt, -, -, fresh⟩
          · simpa using idAt
          · exact absurd known (fresh head (by simp))
      · simp only [firstRepeated?, List.contains_iff_mem, known, if_false, ih, List.mem_cons, not_or]
        constructor
        · rintro ⟨place, idAt, before, distinct, fresh⟩
          refine ⟨place + 1, by simpa using idAt, ?_, ?_, ?_⟩
          · rw [List.take_succ_cons, List.mem_cons]
            tauto
          · rw [List.take_succ_cons, List.nodup_cons]
            exact ⟨fun member => (fresh head member).1 rfl, distinct⟩
          · rw [List.take_succ_cons]
            rintro other member
            rcases List.mem_cons.1 member with rfl | member
            · exact known
            · exact (fresh other member).2
        · rintro ⟨_ | place, idAt, before, distinct, fresh⟩
          · obtain rfl : head = id := by simpa using idAt
            simp [known] at before
          · rw [List.take_succ_cons] at before distinct fresh
            rw [List.nodup_cons] at distinct
            refine ⟨place, by simpa using idAt, ?_, distinct.2, ?_⟩
            · rw [List.mem_cons] at before
              tauto
            · intro other member
              refine ⟨?_, fresh other (List.mem_cons_of_mem _ member)⟩
              rintro rfl
              exact distinct.1 member

theorem edgeProblem?_eq_some_iff {ids : List String} {edge : Edge} {problem : EdgeProblem} :
    edgeProblem? ids edge = some problem ↔ edge.HasProblem ids problem := by
  constructor
  · intro found
    unfold edgeProblem? at found
    split at found
    · rename_i unknown
      cases found
      exact .unknownSource (by simpa using unknown)
    · rename_i known
      split at found
      · rename_i unknown
        cases found
        exact .unknownTarget (by simpa using known) (by simpa using unknown)
      · rename_i knownToo
        split at found
        · rename_i same
          cases found
          exact .selfConnection (by simpa using known) (by simpa using knownToo) same
        · cases found
  · rintro (unknown | ⟨known, unknown⟩ | ⟨known, knownToo, same⟩)
    · simp [edgeProblem?, unknown]
    · simp [edgeProblem?, known, unknown]
    · simp [edgeProblem?, knownToo, same]

theorem edgeProblem?_eq_none_iff_joins {ids : List String} {edge : Edge} :
    edgeProblem? ids edge = none ↔ edge.Joins ids := by
  rw [edgeProblem?_eq_none_iff]
  constructor
  · rintro ⟨source, target, apart⟩
    exact ⟨source, target, apart⟩
  · rintro ⟨source, target, apart⟩
    exact ⟨source, target, apart⟩

variable {graph : Graph}

theorem valid_iff : graph.Valid ↔ graph.ids.Nodup ∧ ∀ edge ∈ graph.edges, edge.Joins graph.ids := by
  constructor
  · intro valid
    refine ⟨valid.nodup, fun edge member => ?_⟩
    exact ⟨valid.source_mem edge member, valid.target_mem edge member,
      valid.source_ne_target edge member⟩
  · rintro ⟨distinct, joins⟩
    exact ⟨distinct, fun edge member => (joins edge member).source_mem,
      fun edge member => (joins edge member).target_mem,
      fun edge member => (joins edge member).source_ne_target⟩

/-- A repeated id is found first, and it is the first one. -/
theorem firstProblem?_eq_duplicateNode_iff {id : String} :
    graph.firstProblem? = some (.duplicateNode id) ↔ ∃ place, graph.FirstRepeatedAt place id := by
  have first_iff : graph.firstProblem? = some (.duplicateNode id) ↔
      firstRepeated? [] graph.ids = some id := by
    unfold firstProblem?
    cases firstRepeated? [] graph.ids with
    | some other => simp
    | none => simp [List.findSome?_eq_some_iff]
  rw [first_iff, firstRepeated?_eq_some_iff]
  constructor
  · rintro ⟨place, idAt, before, distinct, -⟩
    exact ⟨place, idAt, by simpa using before, distinct⟩
  · rintro ⟨place, idAt, before, distinct⟩
    exact ⟨place, idAt, Or.inr before, distinct, by simp⟩

theorem exists_duplicateNode_iff :
    (∃ id, graph.firstProblem? = some (.duplicateNode id)) ↔ ¬ graph.ids.Nodup := by
  have repeated_iff := firstRepeated?_eq_none_iff [] graph.ids
  unfold firstProblem?
  cases found : firstRepeated? [] graph.ids with
  | some id => simpa [found] using repeated_iff
  | none => simpa [found, List.findSome?_eq_some_iff] using repeated_iff

/-- Without a repeated id, the first edge is found that does not join two nodes. -/
theorem firstProblem?_eq_danglingEdge_iff {name : String} {problem : EdgeProblem} :
    graph.firstProblem? = some (.danglingEdge name problem) ↔
      graph.ids.Nodup ∧ ∃ place edge, graph.FirstDanglingAt place edge problem ∧ edge.id = name := by
  have repeated_iff := firstRepeated?_eq_none_iff [] graph.ids
  unfold firstProblem?
  cases found : firstRepeated? [] graph.ids with
  | some id =>
      have repeated : ¬ graph.ids.Nodup := by simpa [found] using repeated_iff
      simp [repeated]
  | none =>
      have distinct : graph.ids.Nodup := by simpa [found] using repeated_iff
      simp only [distinct, true_and, List.findSome?_eq_some_iff, Option.map_eq_some_iff,
        Option.map_eq_none_iff, CompileError.danglingEdge.injEq]
      constructor
      · rintro ⟨before, edge, after, edges_eq, ⟨other, found, rfl, rfl⟩, sound⟩
        refine ⟨before.length, edge, ⟨by simp [edges_eq], ?_, edgeProblem?_eq_some_iff.1 found⟩, rfl⟩
        intro earlier member
        rw [edges_eq, List.take_left] at member
        exact edgeProblem?_eq_none_iff_joins.1 (sound earlier member)
      · rintro ⟨place, edge, ⟨edgeAt, sound, found⟩, rfl⟩
        rcases List.getElem?_eq_some_iff.1 edgeAt with ⟨inside, rfl⟩
        refine ⟨graph.edges.take place, _, graph.edges.drop (place + 1), ?_,
          ⟨problem, edgeProblem?_eq_some_iff.2 found, rfl, rfl⟩, ?_⟩
        · rw [← List.drop_eq_getElem_cons inside, List.take_append_drop]
        · intro earlier member
          exact edgeProblem?_eq_none_iff_joins.2 (sound earlier member)

theorem firstProblem?_ne_cycle {nodes : List String} :
    graph.firstProblem? ≠ some (.cycle nodes) := by
  unfold firstProblem?
  cases firstRepeated? [] graph.ids <;> simp [List.findSome?_eq_some_iff]

theorem FirstDanglingAt.not_joins {place : ℕ} {edge : Edge} {problem : EdgeProblem}
    (first : graph.FirstDanglingAt place edge problem) : ¬ edge.Joins graph.ids := by
  intro joins
  have sound := edgeProblem?_eq_none_iff_joins.2 joins
  cases sound.symm.trans (edgeProblem?_eq_some_iff.2 first.problem)

theorem exists_danglingEdge_iff :
    (∃ name problem, graph.firstProblem? = some (.danglingEdge name problem)) ↔
      graph.ids.Nodup ∧ ∃ edge ∈ graph.edges, ¬ edge.Joins graph.ids := by
  constructor
  · rintro ⟨name, problem, found⟩
    rcases firstProblem?_eq_danglingEdge_iff.1 found with ⟨distinct, place, edge, first, -⟩
    exact ⟨distinct, edge, List.mem_of_getElem? first.edge_at, first.not_joins⟩
  · rintro ⟨distinct, edge, member, unsound⟩
    cases found : graph.firstProblem? with
    | none =>
        have valid := firstProblem?_eq_none_iff.1 found
        exact absurd ((valid_iff.1 valid).2 edge member) unsound
    | some problem =>
        cases problem with
        | duplicateNode id => exact absurd distinct (exists_duplicateNode_iff.1 ⟨id, found⟩)
        | danglingEdge name problem => exact ⟨name, problem, rfl⟩
        | cycle nodes => exact absurd found firstProblem?_ne_cycle

/-! ## Cycles -/

open scoped Classical in
/-- A valid graph has no order of release exactly when it has a cycle, and then the nodes are named
that are held back. -/
theorem releaseOrder_eq_error_iff (valid : graph.Valid) {error : CompileError} :
    graph.releaseOrder = .error error ↔
      ¬ graph.Acyclic ∧ error = .cycle (graph.ids.filter fun id => graph.HeldBack id) := by
  have unreleased_iff : ∀ id ∈ graph.ids,
      (!graph.releasedIds.contains id) = decide (graph.HeldBack id) := by
    intro id member
    have released_iff := mem_releasedIds_iff_not_heldBack valid id
    by_cases held : graph.HeldBack id <;> simp [released_iff, held, member]
  unfold releaseOrder
  dsimp only
  rw [List.filter_congr unreleased_iff, ← length_releasedIds_eq_iff valid]
  by_cases complete : graph.releasedIds.length = graph.nodes.length
  · simp [complete]
  · simp [complete, eq_comm]

/-! ## Compiling -/

/-- A graph is rejected for what its first check finds, or else for its order. -/
theorem compile_eq_rejected_iff {error : CompileError} :
    graph.compile = .error (.rejected error) ↔
      graph.firstProblem? = some error ∨ graph.Valid ∧ graph.releaseOrder = .error error := by
  cases found : graph.firstProblem? with
  | some problem =>
      have invalid : ¬ graph.Valid := by
        rw [← firstProblem?_eq_none_iff, found]
        simp
      simp [compile_eq_of_problem found, invalid]
  | none =>
      have valid := firstProblem?_eq_none_iff.1 found
      cases ordered : graph.releaseOrder with
      | error problem => simp [compile_eq_of_unordered valid ordered, valid]
      | ok order =>
          rw [compile_eq_stepsFrom valid ordered]
          rcases stepsFrom_cases graph.declaredVariables 1 order with ⟨-, failed⟩ | ⟨-, steps, built⟩
          · simp [failed, CompileFailure.misnamed]
          · simp [built]

open scoped Classical in
/-- A graph is rejected for a repeated id exactly if it has one, and the first is named; otherwise for
an edge exactly if one does not join two different nodes, and the first such edge is named with what
is wrong with it; otherwise for a cycle exactly if it has one, and the nodes are named that lie on a
cycle or can be reached from one. -/
theorem compile_diagnosis (graph : Graph) :
    (((∃ id, graph.compile = .error (.rejected (.duplicateNode id))) ↔ ¬ graph.ids.Nodup) ∧
      ∀ id, graph.compile = .error (.rejected (.duplicateNode id)) ↔
        ∃ place, graph.FirstRepeatedAt place id) ∧
    (((∃ name problem, graph.compile = .error (.rejected (.danglingEdge name problem))) ↔
        graph.ids.Nodup ∧ ∃ edge ∈ graph.edges, ¬ edge.Joins graph.ids) ∧
      ∀ name problem, graph.compile = .error (.rejected (.danglingEdge name problem)) ↔
        graph.ids.Nodup ∧
          ∃ place edge, graph.FirstDanglingAt place edge problem ∧ edge.id = name) ∧
    ((∃ nodes, graph.compile = .error (.rejected (.cycle nodes))) ↔
        graph.Valid ∧ ¬ graph.Acyclic) ∧
      ∀ nodes, graph.compile = .error (.rejected (.cycle nodes)) ↔
        graph.Valid ∧ ¬ graph.Acyclic ∧
          nodes = graph.ids.filter fun id => graph.HeldBack id := by
  have duplicate_iff (id : String) : graph.compile = .error (.rejected (.duplicateNode id)) ↔
      graph.firstProblem? = some (.duplicateNode id) := by
    rw [compile_eq_rejected_iff, or_iff_left]
    rintro ⟨valid, ordered⟩
    cases ((releaseOrder_eq_error_iff valid).1 ordered).2
  have dangling_iff (name : String) (problem : EdgeProblem) :
      graph.compile = .error (.rejected (.danglingEdge name problem)) ↔
        graph.firstProblem? = some (.danglingEdge name problem) := by
    rw [compile_eq_rejected_iff, or_iff_left]
    rintro ⟨valid, ordered⟩
    cases ((releaseOrder_eq_error_iff valid).1 ordered).2
  have cycle_iff (nodes : List String) : graph.compile = .error (.rejected (.cycle nodes)) ↔
      graph.Valid ∧ ¬ graph.Acyclic ∧ nodes = graph.ids.filter fun id => graph.HeldBack id := by
    rw [compile_eq_rejected_iff, or_iff_right firstProblem?_ne_cycle]
    refine and_congr_right fun valid => ?_
    rw [releaseOrder_eq_error_iff valid, CompileError.cycle.injEq]
  simp only [duplicate_iff, dangling_iff]
  refine ⟨⟨exists_duplicateNode_iff, fun id => firstProblem?_eq_duplicateNode_iff⟩,
    ⟨exists_danglingEdge_iff, fun name problem => firstProblem?_eq_danglingEdge_iff⟩, ?_, cycle_iff⟩
  simp [cycle_iff]

/-- Behind a cycle, a node that is on none is held back as well, and one before it is not. -/
example :
    let node (id : String) : Node := { id, kind := .find }
    let graph : Graph :=
      { nodes := [node "d", node "c", node "b", node "a"],
        edges := [⟨"1", "a", "b"⟩, ⟨"2", "b", "c"⟩, ⟨"3", "c", "b"⟩, ⟨"4", "c", "d"⟩] }
    graph.compile = .error (.rejected (.cycle ["d", "c", "b"])) :=
  rfl

end Graph

end Workflow
