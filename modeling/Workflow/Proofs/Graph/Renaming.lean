import Mathlib.Data.List.Find
import Workflow.Proofs.Graph.Diagnosis

/-!
# Names of nodes and edges

Nothing but their identity counts of the names of nodes, and nothing at all of the names of edges.  A
graph whose nodes are renamed one to one is checked, released and compiled step by step as before,
and what it is refused for is renamed with it.
-/

namespace Workflow

/-- The ids of the nodes that an edge joins. -/
def Edge.ends (edge : Edge) : String × String := (edge.source, edge.target)

/-- A node under another id. -/
def Node.rename (rename : String → String) (node : Node) : Node := { node with id := rename node.id }

/-- An edge's problem under other ids. -/
def EdgeProblem.rename (rename : String → String) : EdgeProblem → EdgeProblem
  | .unknownSource node => .unknownSource (rename node)
  | .unknownTarget node => .unknownTarget (rename node)
  | .selfConnection => .selfConnection

namespace Graph

/-- An id is that of a node, or stands at an end of an edge. -/
def Mentions (graph : Graph) (id : String) : Prop :=
  id ∈ graph.ids ∨ ∃ edge ∈ graph.edges, edge.source = id ∨ edge.target = id

/-- A graph is another one with its nodes renamed and its edges named anew.  No two ids that the
graph mentions become one. -/
structure Renames (rename : String → String) (graph renamed : Graph) : Prop where
  injOn : ∀ first second, graph.Mentions first → graph.Mentions second →
    rename first = rename second → first = second
  nodes_eq : renamed.nodes = graph.nodes.map (Node.rename rename)
  ends_eq : renamed.edges.map Edge.ends =
    graph.edges.map fun edge => (rename edge.source, rename edge.target)

/-- What a graph is rejected for is, renamed, what the renamed graph is rejected for: the same node,
the edge at the same place, or the same nodes. -/
inductive SameRejection (rename : String → String) (graph renamed : Graph) :
    CompileError → CompileError → Prop where
  | duplicateNode (id : String) :
      SameRejection rename graph renamed (.duplicateNode id) (.duplicateNode (rename id))
  | danglingEdge {place : ℕ} {edge other : Edge} {problem : EdgeProblem}
      (first : graph.FirstDanglingAt place edge problem)
      (otherAt : renamed.edges[place]? = some other) :
      SameRejection rename graph renamed (.danglingEdge edge.id problem)
        (.danglingEdge other.id (problem.rename rename))
  | cycle (nodes : List String) :
      SameRejection rename graph renamed (.cycle nodes) (.cycle (nodes.map rename))

variable {rename : String → String} {graph renamed : Graph}

theorem mentions_of_mem_ids {id : String} (member : id ∈ graph.ids) : graph.Mentions id :=
  Or.inl member

theorem mentions_source {edge : Edge} (member : edge ∈ graph.edges) :
    graph.Mentions edge.source :=
  Or.inr ⟨edge, member, Or.inl rfl⟩

theorem mentions_target {edge : Edge} (member : edge ∈ graph.edges) :
    graph.Mentions edge.target :=
  Or.inr ⟨edge, member, Or.inr rfl⟩

theorem mentions_of_mem_successors {id other : String} (member : other ∈ graph.successors id) :
    graph.Mentions other := by
  rcases List.mem_map.1 member with ⟨edge, leaves, rfl⟩
  exact mentions_target (List.mem_of_mem_filter leaves)

namespace Renames

variable (renames : Renames rename graph renamed)

include renames

theorem eq_iff {first second : String} (firstMentioned : graph.Mentions first)
    (secondMentioned : graph.Mentions second) : rename first = rename second ↔ first = second := by
  constructor
  · exact renames.injOn first second firstMentioned secondMentioned
  · rintro rfl
    rfl

theorem ids_eq : renamed.ids = graph.ids.map rename := by
  rw [ids, renames.nodes_eq, ids, List.map_map, List.map_map]
  rfl

/-- A renamed id stands among renamed ids only where it stood before. -/
theorem mem_map_iff {ids : List String} (mentioned : ∀ id ∈ ids, graph.Mentions id) {id : String}
    (known : graph.Mentions id) : rename id ∈ ids.map rename ↔ id ∈ ids := by
  constructor
  · intro member
    rcases List.mem_map.1 member with ⟨other, otherMem, same⟩
    rwa [← renames.injOn other id (mentioned other otherMem) known same]
  · exact List.mem_map_of_mem

theorem mem_ids_iff {id : String} (known : graph.Mentions id) :
    rename id ∈ renamed.ids ↔ id ∈ graph.ids := by
  rw [renames.ids_eq]
  exact renames.mem_map_iff (fun _ => mentions_of_mem_ids) known

theorem nodup_map {ids : List String} (mentioned : ∀ id ∈ ids, graph.Mentions id)
    (distinct : ids.Nodup) : (ids.map rename).Nodup :=
  distinct.map_on fun first firstMem second secondMem =>
    renames.injOn first second (mentioned first firstMem) (mentioned second secondMem)

/-! ## Checks -/

/-- An edge of the renamed graph joins the nodes, renamed, of the edge at its place. -/
theorem exists_edge_at {place : ℕ} {edge : Edge} (edgeAt : graph.edges[place]? = some edge) :
    ∃ other, renamed.edges[place]? = some other ∧ other.source = rename edge.source ∧
      other.target = rename edge.target := by
  have ends_at := congrArg (·[place]?) renames.ends_eq
  simp only [List.getElem?_map, edgeAt, Option.map_some, Option.map_eq_some_iff] at ends_at
  rcases ends_at with ⟨other, otherAt, same⟩
  exact ⟨other, otherAt, congrArg Prod.fst same, congrArg Prod.snd same⟩

theorem exists_edge_of_mem_take {place : ℕ} {other : Edge}
    (member : other ∈ renamed.edges.take place) :
    ∃ edge ∈ graph.edges.take place, other.source = rename edge.source ∧
      other.target = rename edge.target := by
  have ends_eq : (renamed.edges.take place).map Edge.ends =
      (graph.edges.take place).map fun edge => (rename edge.source, rename edge.target) := by
    rw [List.map_take, List.map_take, renames.ends_eq]
  have there := List.mem_map_of_mem (f := Edge.ends) member
  rw [ends_eq, List.mem_map] at there
  rcases there with ⟨edge, edgeMem, same⟩
  exact ⟨edge, edgeMem, (congrArg Prod.fst same).symm, (congrArg Prod.snd same).symm⟩

section Edge

variable {edge other : Edge} (member : edge ∈ graph.edges)
  (source_eq : other.source = rename edge.source) (target_eq : other.target = rename edge.target)

include member source_eq target_eq

theorem joins (joins : edge.Joins graph.ids) : other.Joins renamed.ids := by
  constructor
  · rw [source_eq, renames.mem_ids_iff (mentions_source member)]
    exact joins.source_mem
  · rw [target_eq, renames.mem_ids_iff (mentions_target member)]
    exact joins.target_mem
  · rw [source_eq, target_eq, ne_eq,
      renames.eq_iff (mentions_source member) (mentions_target member)]
    exact joins.source_ne_target

theorem hasProblem {problem : EdgeProblem} (wrong : edge.HasProblem graph.ids problem) :
    other.HasProblem renamed.ids (problem.rename rename) := by
  have source_iff : other.source ∈ renamed.ids ↔ edge.source ∈ graph.ids := by
    rw [source_eq, renames.mem_ids_iff (mentions_source member)]
  have target_iff : other.target ∈ renamed.ids ↔ edge.target ∈ graph.ids := by
    rw [target_eq, renames.mem_ids_iff (mentions_target member)]
  cases wrong with
  | unknownSource unknown =>
      rw [EdgeProblem.rename, ← source_eq]
      exact .unknownSource (mt source_iff.1 unknown)
  | unknownTarget known unknown =>
      rw [EdgeProblem.rename, ← target_eq]
      exact .unknownTarget (source_iff.2 known) (mt target_iff.1 unknown)
  | selfConnection known knownToo same =>
      refine .selfConnection (source_iff.2 known) (target_iff.2 knownToo) ?_
      rw [source_eq, target_eq, same]

end Edge

theorem firstRepeatedAt {place : ℕ} {id : String} (first : graph.FirstRepeatedAt place id) :
    renamed.FirstRepeatedAt place (rename id) := by
  have mentioned : ∀ id ∈ graph.ids.take place, graph.Mentions id :=
    fun id member => mentions_of_mem_ids (List.mem_of_mem_take member)
  constructor
  · rw [renames.ids_eq, List.getElem?_map, first.id_at, Option.map_some]
  · rw [renames.ids_eq, ← List.map_take]
    exact List.mem_map_of_mem first.repeated
  · rw [renames.ids_eq, ← List.map_take]
    exact renames.nodup_map mentioned first.distinct

theorem nodup_ids (distinct : graph.ids.Nodup) : renamed.ids.Nodup := by
  rw [renames.ids_eq]
  exact renames.nodup_map (fun _ => mentions_of_mem_ids) distinct

theorem exists_firstDanglingAt {place : ℕ} {edge : Edge} {problem : EdgeProblem}
    (first : graph.FirstDanglingAt place edge problem) :
    ∃ other, renamed.edges[place]? = some other ∧
      renamed.FirstDanglingAt place other (problem.rename rename) := by
  rcases renames.exists_edge_at first.edge_at with ⟨other, otherAt, source_eq, target_eq⟩
  have member := List.mem_of_getElem? first.edge_at
  refine ⟨other, otherAt, otherAt, ?_, renames.hasProblem member source_eq target_eq first.problem⟩
  intro earlier earlierMem
  rcases renames.exists_edge_of_mem_take earlierMem with ⟨before, beforeMem, source_eq, target_eq⟩
  exact renames.joins (List.mem_of_mem_take beforeMem) source_eq target_eq
    (first.sound before beforeMem)

theorem valid (valid : graph.Valid) : renamed.Valid := by
  rw [valid_iff] at valid ⊢
  refine ⟨renames.nodup_ids valid.1, ?_⟩
  intro other member
  rw [← List.take_length (l := renamed.edges)] at member
  rcases renames.exists_edge_of_mem_take member with ⟨edge, edgeMem, source_eq, target_eq⟩
  have edgeMem := List.mem_of_mem_take edgeMem
  exact renames.joins edgeMem source_eq target_eq (valid.2 edge edgeMem)

/-! ## The release -/

theorem inDegree_eq {id : String} (known : graph.Mentions id) :
    renamed.inDegree (rename id) = graph.inDegree id := by
  have by_ends : ∀ id, renamed.inDegree id = (renamed.edges.map Edge.ends).countP (·.2 = id) := by
    intro id
    rw [inDegree, List.countP_map]
    rfl
  rw [by_ends, renames.ends_eq, List.countP_map, inDegree]
  congr 1
  refine List.countP_congr fun edge member => ?_
  simpa using renames.eq_iff (mentions_target member) known

theorem successors_eq {id : String} (known : graph.Mentions id) :
    renamed.successors (rename id) = (graph.successors id).map rename := by
  have by_ends : ∀ id, renamed.successors id =
      ((renamed.edges.map Edge.ends).filter (·.1 = id)).map (·.2) := by
    intro id
    rw [successors, List.filter_map, List.map_map]
    rfl
  have same_source : ∀ edge ∈ graph.edges,
      decide (rename edge.source = rename id) = decide (edge.source = id) := by
    intro edge member
    exact decide_eq_decide.2 (renames.eq_iff (mentions_source member) known)
  rw [by_ends, renames.ends_eq, List.filter_map, List.map_map, successors, List.map_map]
  exact congrArg _ (List.filter_congr same_source)

end Renames

namespace Release

/-- The state of a release is, renamed, that of another release. -/
structure Renamed (rename : String → String) (graph : Graph) (state other : Release) : Prop where
  degree_eq : ∀ id, graph.Mentions id → other.degree (rename id) = state.degree id
  queue_eq : other.queue = state.queue.map rename
  released_eq : other.released = state.released.map rename
  mentioned : ∀ id ∈ state.released ++ state.queue, graph.Mentions id

variable {state other : Release}

theorem start_renamed (renames : Renames rename graph renamed) :
    Renamed rename graph (start graph) (start renamed) where
  degree_eq id known := renames.inDegree_eq known
  queue_eq := by
    have same_degree : ∀ id ∈ graph.ids,
        decide (renamed.inDegree (rename id) = 0) = decide (graph.inDegree id = 0) := by
      intro id member
      rw [renames.inDegree_eq (mentions_of_mem_ids member)]
    simp only [start]
    rw [renames.ids_eq, List.filter_map]
    exact congrArg _ (List.filter_congr same_degree)
  released_eq := rfl
  mentioned id member := by
    rw [start, List.nil_append] at member
    exact mentions_of_mem_ids (List.mem_of_mem_filter member)

theorem Renamed.countOff (alike : Renamed rename graph state other)
    (renames : Renames rename graph renamed) {target : String} (known : graph.Mentions target) :
    Renamed rename graph (state.countOff target) (other.countOff (rename target)) := by
  constructor
  · intro id idKnown
    simp only [countOff_degree, alike.degree_eq id idKnown, alike.degree_eq target known,
      renames.eq_iff idKnown known]
  · rw [countOff_queue, countOff_queue, alike.degree_eq target known, alike.queue_eq]
    split
    · rw [List.map_append, List.map_singleton]
    · rfl
  · exact alike.released_eq
  · intro id member
    rw [countOff_queue, countOff_released] at member
    split at member
    · rw [← List.append_assoc] at member
      rcases List.mem_append.1 member with old | new
      · exact alike.mentioned id old
      · rwa [List.mem_singleton.1 new]
    · exact alike.mentioned id member

theorem Renamed.foldl_countOff (alike : Renamed rename graph state other)
    (renames : Renames rename graph renamed) {targets : List String}
    (known : ∀ target ∈ targets, graph.Mentions target) :
    Renamed rename graph (targets.foldl Release.countOff state)
      ((targets.map rename).foldl Release.countOff other) := by
  induction targets generalizing state other with
  | nil => exact alike
  | cons target rest ih =>
      exact ih (alike.countOff renames (known target List.mem_cons_self))
        fun target member => known target (List.mem_cons_of_mem _ member)

/-- Releasing a node does under other names what it does under the old ones. -/
theorem Renamed.next (alike : Renamed rename graph state other)
    (renames : Renames rename graph renamed) :
    Renamed rename graph (next graph state) (next renamed other) := by
  cases queue : state.queue with
  | nil =>
      have emptyToo : other.queue = [] := by
        rw [alike.queue_eq, queue, List.map_nil]
      simpa only [Release.next, queue, emptyToo] using alike
  | cons id rest =>
      have queueToo : other.queue = rename id :: rest.map rename := by
        rw [alike.queue_eq, queue, List.map_cons]
      have known : graph.Mentions id := alike.mentioned id (by simp [queue])
      have begun : Renamed rename graph
          { state with queue := rest, released := state.released ++ [id] }
          { other with queue := rest.map rename, released := other.released ++ [rename id] } := by
        refine ⟨alike.degree_eq, rfl, ?_, ?_⟩
        · rw [alike.released_eq, List.map_append, List.map_singleton]
        · intro id member
          refine alike.mentioned id ?_
          rw [queue]
          simpa using member
      simp only [Release.next, queue, queueToo, renames.successors_eq known]
      exact begun.foldl_countOff renames fun _ => mentions_of_mem_successors

theorem Renamed.run (alike : Renamed rename graph state other)
    (renames : Renames rename graph renamed) (steps : ℕ) :
    Renamed rename graph (run graph steps state) (run renamed steps other) := by
  induction steps generalizing state other with
  | zero => exact alike
  | succ steps ih =>
      have empty_iff : other.queue.isEmpty = state.queue.isEmpty := by
        rw [alike.queue_eq, List.isEmpty_map]
      rw [Release.run, Release.run, empty_iff]
      split
      · exact alike
      · exact ih (alike.next renames)

end Release

/-! ## Compiling -/

namespace Renames

variable (renames : Renames rename graph renamed)

include renames

theorem length_nodes_eq : renamed.nodes.length = graph.nodes.length := by
  rw [renames.nodes_eq, List.length_map]

theorem releasedIds_eq : renamed.releasedIds = graph.releasedIds.map rename ∧
    ∀ id ∈ graph.releasedIds, graph.Mentions id := by
  have alike := (Release.start_renamed renames).run renames graph.nodes.length
  constructor
  · rw [releasedIds, renames.length_nodes_eq]
    exact alike.released_eq
  · intro id member
    exact alike.mentioned id (List.mem_append_left _ member)

theorem node?_eq {id : String} (known : graph.Mentions id) :
    renamed.node? (rename id) = (graph.node? id).map (Node.rename rename) := by
  have same_id : ∀ node ∈ graph.nodes,
      decide ((Node.rename rename node).id = rename id) = decide (node.id = id) := by
    intro node member
    exact decide_eq_decide.2 (renames.eq_iff (mentions_of_mem_ids (List.mem_map_of_mem member)) known)
  rw [node?, node?, renames.nodes_eq, List.find?_map]
  exact congrArg _ (List.find?_congr same_id)

/-- The nodes are released in the order in which they were under their old ids. -/
theorem releaseOrder_eq_ok {order : List Node} (ordered : graph.releaseOrder = .ok order) :
    renamed.releaseOrder = .ok (order.map (Node.rename rename)) := by
  rcases renames.releasedIds_eq with ⟨released_eq, known⟩
  rw [releaseOrder_eq_ok_iff] at ordered ⊢
  rcases ordered with ⟨complete, rfl⟩
  rw [released_eq, renames.length_nodes_eq, List.length_map, List.filterMap_map,
    List.map_filterMap]
  exact ⟨complete, List.filterMap_congr fun id member => renames.node?_eq (known id member)⟩

theorem releaseOrder_eq_error {error : CompileError} (refused : graph.releaseOrder = .error error) :
    ∃ nodes, error = .cycle nodes ∧ renamed.releaseOrder = .error (.cycle (nodes.map rename)) := by
  rcases renames.releasedIds_eq with ⟨released_eq, known⟩
  have unreleased_iff : ∀ id ∈ graph.ids,
      (!(graph.releasedIds.map rename).contains (rename id)) = !graph.releasedIds.contains id := by
    intro id member
    have same := renames.mem_map_iff known (mentions_of_mem_ids member)
    by_cases released : id ∈ graph.releasedIds <;> simp [same, released]
  unfold releaseOrder at refused ⊢
  dsimp only at refused ⊢
  split at refused
  · rename_i incomplete
    cases refused
    rw [released_eq, renames.length_nodes_eq, List.length_map, if_pos incomplete, renames.ids_eq,
      List.filter_map]
    exact ⟨_, rfl, congrArg _ (congrArg _ (congrArg _ (List.filter_congr unreleased_iff)))⟩
  · cases refused

theorem declaredVariables_eq : renamed.declaredVariables = graph.declaredVariables := by
  rw [declaredVariables, renames.nodes_eq, List.flatMap_map]
  rfl

omit renames in
/-- A step shows nothing of the id of its node. -/
theorem stepsFrom_map (declared : List String) (position : ℕ) (nodes : List Node) :
    stepsFrom declared position (nodes.map (Node.rename rename)) =
      stepsFrom declared position nodes := by
  induction nodes generalizing position with
  | nil => rfl
  | cons node rest ih =>
      rw [List.map_cons, stepsFrom, stepsFrom, ih]
      rfl

theorem compile_eq_rejected {error : CompileError}
    (refused : graph.compile = .error (.rejected error)) :
    ∃ other, SameRejection rename graph renamed error other ∧
      renamed.compile = .error (.rejected other) := by
  simp only [compile_eq_rejected_iff] at refused ⊢
  rcases refused with found | ⟨valid, refused⟩
  · cases error with
    | duplicateNode id =>
        rcases firstProblem?_eq_duplicateNode_iff.1 found with ⟨place, first⟩
        exact ⟨_, .duplicateNode id, Or.inl
          (firstProblem?_eq_duplicateNode_iff.2 ⟨place, renames.firstRepeatedAt first⟩)⟩
    | danglingEdge name problem =>
        rcases firstProblem?_eq_danglingEdge_iff.1 found with ⟨distinct, place, edge, first, rfl⟩
        rcases renames.exists_firstDanglingAt first with ⟨other, otherAt, firstToo⟩
        exact ⟨_, .danglingEdge first otherAt, Or.inl (firstProblem?_eq_danglingEdge_iff.2
          ⟨renames.nodup_ids distinct, place, other, firstToo, rfl⟩)⟩
    | cycle nodes => exact absurd found firstProblem?_ne_cycle
  · rcases renames.releaseOrder_eq_error refused with ⟨nodes, rfl, refusedToo⟩
    exact ⟨_, .cycle nodes, Or.inr ⟨renames.valid valid, refusedToo⟩⟩

end Renames

/-- A graph with its nodes renamed one to one and its edges named anew compiles to the same steps, or
is rejected for the same node, edge or nodes under their new names, or has no compiled form for the
same violations. -/
theorem compile_renamed (rename : String → String) (graph renamed : Graph)
    (renames : Renames rename graph renamed) :
    match graph.compile with
    | .ok steps => renamed.compile = .ok steps
    | .error (.rejected error) =>
      ∃ other, SameRejection rename graph renamed error other ∧
        renamed.compile = .error (.rejected other)
    | .error (.invalid violations) => renamed.compile = .error (.invalid violations) := by
  cases found : graph.firstProblem? with
  | some problem =>
      have refused := compile_eq_of_problem found
      rw [refused]
      exact renames.compile_eq_rejected refused
  | none =>
      have valid := firstProblem?_eq_none_iff.1 found
      cases ordered : graph.releaseOrder with
      | error problem =>
          have refused := compile_eq_of_unordered valid ordered
          rw [refused]
          exact renames.compile_eq_rejected refused
      | ok order =>
          have same : renamed.compile = graph.compile := by
            rw [compile_eq_stepsFrom valid ordered,
              compile_eq_stepsFrom (renames.valid valid) (renames.releaseOrder_eq_ok ordered),
              renames.declaredVariables_eq, Renames.stepsFrom_map]
          have passed : ∀ error, graph.compile ≠ .error (.rejected error) := by
            simp [compile_eq_rejected_iff, found, ordered]
          rw [same]
          split
          · rename_i steps compiled
            exact compiled
          · rename_i error refused
            exact absurd refused (passed error)
          · rename_i violations failed
            exact failed

/-- Of two edges with one name the second leads nowhere; named anew, it is the one that is
reported. -/
theorem compile_renamed_sameName :
    let rename (id : String) : String := "node " ++ id
    let graph : Graph :=
      { nodes := [{ id := "b", kind := .find }, { id := "a", kind := .auth }],
        edges := [⟨"edge", "b", "a"⟩, ⟨"edge", "a", "c"⟩] }
    let renamed : Graph :=
      { nodes := [{ id := "node b", kind := .find }, { id := "node a", kind := .auth }],
        edges := [⟨"first", "node b", "node a"⟩, ⟨"second", "node a", "node c"⟩] }
    let error : CompileError := .danglingEdge "edge" (.unknownTarget "c")
    let other : CompileError := .danglingEdge "second" (.unknownTarget "node c")
    Renames rename graph renamed ∧ graph.compile = .error (.rejected error) ∧
      SameRejection rename graph renamed error other ∧
      renamed.compile = .error (.rejected other) := by
  intro rename graph renamed error other
  have renames : Renames rename graph renamed := by
    refine ⟨?_, rfl, rfl⟩
    intro first second _ _ same
    exact (String.append_right_inj "node ").1 same
  have refused : graph.compile = .error (.rejected error) := rfl
  have refusedToo : renamed.compile = .error (.rejected other) := rfl
  have outcome := compile_renamed rename graph renamed renames
  rw [refused] at outcome
  rcases outcome with ⟨reported, same, reportedToo⟩
  rw [refusedToo] at reportedToo
  cases reportedToo
  exact ⟨renames, refused, same, refusedToo⟩

end Graph

end Workflow
