import Mathlib.Data.List.Dedup
import Mathlib.Data.List.Perm.Subperm
import Workflow.Graph.ReleaseOrder
import Workflow.Proofs.Graph.Precedence

/-!
# What every release keeps

While the nodes of a valid graph are released, the degree of a node is the number of edges into it
whose sources are not yet released, the nodes released or waiting are those of degree zero, each
once, and every released node comes after its predecessors.  Such a state is consistent.

A run therefore empties the queue within as many steps as there are nodes, and what is not released
then has a predecessor that is not released either.
-/

namespace Workflow.Graph

open Relation (TransGen)

variable {graph : Graph}

/-- One item of a list stands at a smaller position than another. -/
def StandsBefore {α : Type} (items : List α) (first second : α) : Prop :=
  ∃ i j : Nat, i < j ∧ items[i]? = some first ∧ items[j]? = some second

theorem StandsBefore.append {α : Type} {items : List α} {first second : α}
    (before : StandsBefore items first second) (more : List α) :
    StandsBefore (items ++ more) first second := by
  obtain ⟨i, j, smaller, firstAt, secondAt⟩ := before
  obtain ⟨firstInside, _⟩ := List.getElem?_eq_some_iff.1 firstAt
  obtain ⟨secondInside, _⟩ := List.getElem?_eq_some_iff.1 secondAt
  refine ⟨i, j, smaller, ?_, ?_⟩
  · rw [List.getElem?_append_left firstInside, firstAt]
  · rw [List.getElem?_append_left secondInside, secondAt]

theorem standsBefore_concat {α : Type} {items : List α} {first : α} (member : first ∈ items)
    (last : α) : StandsBefore (items ++ [last]) first last := by
  obtain ⟨i, inside, firstAt⟩ := List.mem_iff_getElem.1 member
  refine ⟨i, items.length, inside, ?_, by simp⟩
  rw [List.getElem?_append_left inside, List.getElem?_eq_getElem inside, firstAt]

/-- The number of edges into a node whose sources are not among the given nodes. -/
def openEdges (graph : Graph) (released : List String) (id : String) : Nat :=
  graph.edges.countP fun edge => edge.target = id ∧ edge.source ∉ released

theorem count_successors (graph : Graph) (source id : String) :
    (graph.successors source).count id =
      graph.edges.countP fun edge => edge.target = id ∧ edge.source = source := by
  simp only [successors, List.count_eq_countP, List.countP_map, List.countP_filter]
  congr 1
  funext edge
  simp [beq_eq_decide]

/-- Releasing a node closes its outgoing edges. -/
theorem openEdges_concat {released : List String} {source : String} (fresh : source ∉ released)
    (id : String) :
    graph.openEdges released id =
      graph.openEdges (released ++ [source]) id + (graph.successors source).count id := by
  rw [count_successors, openEdges, openEdges]
  induction graph.edges with
  | nil => rfl
  | cons edge rest ih =>
      by_cases into : edge.target = id <;> by_cases leaves : edge.source = source <;>
        by_cases known : edge.source ∈ released <;>
        simp_all <;> omega

/-- A node without open edges has released predecessors only. -/
theorem openEdges_eq_zero_iff (graph : Graph) (released : List String) (id : String) :
    graph.openEdges released id = 0 ↔ ∀ source, graph.Precedes source id → source ∈ released := by
  simp only [openEdges, List.countP_eq_zero, decide_eq_true_eq, not_and, not_not]
  constructor
  · rintro closed source ⟨edge, member, rfl, into⟩
    exact closed edge member into
  · intro closed edge member into
    exact closed edge.source ⟨edge, member, rfl, into⟩

/-- The successors of a node that have no open edge left when it is released after the given nodes,
in the order of the last edges that lead to them from it. -/
def joining (graph : Graph) (released : List String) (id : String) : List String :=
  (graph.successors id).dedup.filter fun other => graph.openEdges (released ++ [id]) other = 0

theorem mem_joining_iff {released : List String} {id other : String} :
    other ∈ graph.joining released id ↔
      other ∈ graph.successors id ∧ graph.openEdges (released ++ [id]) other = 0 := by
  simp [joining]

theorem nodup_joining (graph : Graph) (released : List String) (id : String) :
    (graph.joining released id).Nodup :=
  (List.nodup_dedup _).filter _

namespace Release

/-! ## Counting off edges -/

@[simp]
theorem countOff_degree (state : Release) (target id : String) :
    (state.countOff target).degree id =
      if id = target then state.degree target - 1 else state.degree id :=
  rfl

@[simp]
theorem countOff_released (state : Release) (target : String) :
    (state.countOff target).released = state.released :=
  rfl

theorem countOff_queue (state : Release) (target : String) :
    (state.countOff target).queue =
      if state.degree target - 1 = 0 then state.queue ++ [target] else state.queue :=
  rfl

@[simp]
theorem released_foldl_countOff (targets : List String) (state : Release) :
    (targets.foldl countOff state).released = state.released := by
  induction targets generalizing state with
  | nil => rfl
  | cons target rest ih => exact ih (state.countOff target)

theorem degree_foldl_countOff (targets : List String) (state : Release) (id : String) :
    (targets.foldl countOff state).degree id = state.degree id - targets.count id := by
  induction targets generalizing state with
  | nil => simp
  | cons target rest ih =>
      rw [List.foldl_cons, ih, countOff_degree]
      by_cases same : id = target
      · subst same
        simp
        omega
      · simp [same, Ne.symm same]

/-- Counting off edges lets exactly those nodes join the queue whose last edges are counted off, in
the order of these last edges. -/
theorem queue_foldl_countOff (targets : List String) (state : Release)
    (enough : ∀ id, (targets.count id : Int) ≤ state.degree id) :
    (targets.foldl countOff state).queue =
      state.queue ++ targets.dedup.filter fun id => state.degree id = targets.count id := by
  induction targets generalizing state with
  | nil => simp
  | cons target rest ih =>
      have enoughHere : (rest.count target : Int) ≤ state.degree target - 1 := by
        have := enough target
        simp at this
        omega
      have enoughRest : ∀ id, (rest.count id : Int) ≤ (state.countOff target).degree id := by
        intro id
        by_cases same : id = target
        · subst same
          simpa using enoughHere
        · simpa [same, Ne.symm same] using enough id
      -- Whether a node joins is the same question before and after this edge is counted off.
      have same_test : (fun id => decide ((state.countOff target).degree id = rest.count id)) =
          fun id => decide (state.degree id = (target :: rest).count id) := by
        funext id
        by_cases same : id = target
        · subst same
          rw [countOff_degree, if_pos rfl, List.count_cons_self]
          exact decide_eq_decide.2 (by omega)
        · simp [same, Ne.symm same]
      rw [List.foldl_cons, ih (state.countOff target) enoughRest, same_test, countOff_queue]
      by_cases later : target ∈ rest
      · have counted : 0 < rest.count target := List.count_pos_iff.2 later
        rw [if_neg (by omega), List.dedup_cons_of_mem later]
      · have uncounted : rest.count target = 0 := List.count_eq_zero.2 later
        rw [List.dedup_cons_of_notMem later, List.filter_cons]
        by_cases last : state.degree target = 1
        · simp [last, uncounted]
        · simp [last, uncounted, sub_eq_zero]

/-! ## Consistent states -/

/-- What holds of the state of a release before and after each step. -/
structure Consistent (graph : Graph) (state : Release) : Prop where
  degree_eq : ∀ id, state.degree id = graph.openEdges state.released id
  mem_iff : ∀ id, id ∈ state.released ++ state.queue ↔ id ∈ graph.ids ∧ state.degree id = 0
  nodup : (state.released ++ state.queue).Nodup
  ordered : ∀ source target, graph.Precedes source target → target ∈ state.released →
    StandsBefore state.released source target

theorem start_consistent (valid : graph.Valid) : Consistent graph (start graph) where
  degree_eq id := by simp [start, inDegree, openEdges]
  mem_iff id := by simp [start]
  nodup := by simpa [start] using valid.nodup.filter _
  ordered source target _ member := by simp [start] at member

/-- What the release of a node does: its outgoing edges are closed, and those of its successors join
the queue that have no open edge left. -/
theorem Consistent.release {state : Release} (consistent : Consistent graph state) {id : String}
    {rest : List String} (queue : state.queue = id :: rest) :
    (next graph state).released = state.released ++ [id] ∧
      (next graph state).queue = rest ++ graph.joining state.released id ∧
      ∀ other, (next graph state).degree other =
        graph.openEdges (state.released ++ [id]) other := by
  have fresh : id ∉ state.released := by
    have distinct := consistent.nodup
    rw [queue, List.nodup_append] at distinct
    exact fun member => distinct.2.2 id member id List.mem_cons_self rfl
  -- The state in which the node is released and its edges are still to be counted off.
  obtain ⟨before, before_eq⟩ : ∃ before : Release,
      before = { state with queue := rest, released := state.released ++ [id] } := ⟨_, rfl⟩
  have next_eq : next graph state = (graph.successors id).foldl countOff before := by
    simp [next, queue, before_eq]
  have degreeBefore : ∀ other, before.degree other =
      graph.openEdges (state.released ++ [id]) other + (graph.successors id).count other := by
    intro other
    rw [before_eq, consistent.degree_eq, openEdges_concat fresh]
    push_cast
    rfl
  have last_iff : (fun other => decide (before.degree other = (graph.successors id).count other)) =
      fun other => decide (graph.openEdges (state.released ++ [id]) other = 0) := by
    funext other
    rw [degreeBefore]
    exact decide_eq_decide.2 (by omega)
  refine ⟨?_, ?_, ?_⟩
  · rw [next_eq, released_foldl_countOff, before_eq]
  · rw [next_eq, queue_foldl_countOff _ _ fun other => by rw [degreeBefore]; omega, last_iff,
      before_eq]
    rfl
  · intro other
    rw [next_eq, degree_foldl_countOff, degreeBefore]
    omega

/-- Releasing a node keeps a state consistent. -/
theorem Consistent.next {state : Release} (valid : graph.Valid)
    (consistent : Consistent graph state) : Consistent graph (next graph state) := by
  cases queue : state.queue with
  | nil => simpa [Release.next, queue] using consistent
  | cons id rest =>
      obtain ⟨released_eq, queue_eq, degree_eq⟩ := consistent.release queue
      have known : (state.released ++ id :: rest).Nodup := by
        rw [← queue]
        exact consistent.nodup
      have fresh : id ∉ state.released := fun member =>
        (List.nodup_append.1 known).2.2 id member id List.mem_cons_self rfl
      have successor_mem : ∀ other ∈ graph.successors id, other ∈ graph.ids := by
        intro other member
        obtain ⟨edge, edgeMem, rfl⟩ := List.mem_map.1 member
        exact valid.target_mem edge (List.mem_of_mem_filter edgeMem)
      -- What was released or waiting had no open edge, so none of it joins again.
      have known_closed : ∀ other ∈ state.released ++ id :: rest,
          graph.openEdges (state.released ++ [id]) other = 0 ∧ other ∉ graph.successors id := by
        intro other member
        have zero := ((consistent.mem_iff other).1 (by rwa [queue])).2
        rw [consistent.degree_eq, openEdges_concat fresh] at zero
        exact ⟨by omega, List.count_eq_zero.1 (by omega)⟩
      refine ⟨?_, ?_, ?_, ?_⟩
      · intro other
        rw [degree_eq, released_eq]
      · intro other
        have split : other ∈ (state.released ++ [id]) ++ (rest ++ graph.joining state.released id) ↔
            other ∈ state.released ++ id :: rest ∨ other ∈ graph.joining state.released id := by
          simp only [List.mem_append, List.mem_cons, List.not_mem_nil, or_false]
          tauto
        rw [released_eq, queue_eq, degree_eq, split, mem_joining_iff, Int.natCast_eq_zero]
        constructor
        · rintro (member | ⟨member, closed⟩)
          · exact ⟨((consistent.mem_iff other).1 (by rwa [queue])).1, (known_closed other member).1⟩
          · exact ⟨successor_mem other member, closed⟩
        · rintro ⟨member, closed⟩
          by_cases counted : other ∈ graph.successors id
          · exact Or.inr ⟨counted, closed⟩
          · left
            rw [← queue, consistent.mem_iff, consistent.degree_eq, openEdges_concat fresh, closed,
              List.count_eq_zero.2 counted]
            exact ⟨member, rfl⟩
      · have whole : (state.released ++ [id]) ++ (rest ++ graph.joining state.released id) =
            (state.released ++ id :: rest) ++ graph.joining state.released id := by
          simp
        rw [released_eq, queue_eq, whole]
        refine List.nodup_append.2 ⟨known, nodup_joining graph state.released id, ?_⟩
        rintro other member _ joiningMember rfl
        exact (known_closed other member).2 (mem_joining_iff.1 joiningMember).1
      · intro source target precedes member
        rw [released_eq] at member ⊢
        rcases List.mem_append.1 member with old | new
        · exact (consistent.ordered source target precedes old).append [id]
        · obtain rfl : target = id := by simpa using new
          have zero := ((consistent.mem_iff target).1 (by simp [queue])).2
          rw [consistent.degree_eq, Int.natCast_eq_zero, openEdges_eq_zero_iff] at zero
          exact standsBefore_concat (zero source precedes) target

/-! ## Whole runs -/

theorem Consistent.run {state : Release} (valid : graph.Valid)
    (consistent : Consistent graph state) (steps : Nat) :
    Consistent graph (run graph steps state) := by
  induction steps generalizing state with
  | zero => exact consistent
  | succ steps ih =>
      rw [Release.run]
      split
      · exact consistent
      · exact ih (consistent.next valid)

/-- Only nodes of the graph are released or wait, each once. -/
theorem Consistent.length_le {state : Release} (consistent : Consistent graph state) :
    state.released.length + state.queue.length ≤ graph.ids.length := by
  rw [← List.length_append]
  exact (List.subperm_of_subset consistent.nodup
    (fun id member => ((consistent.mem_iff id).1 member).1)).length_le

/-- A run with as many steps as there are nodes to release leaves nothing waiting. -/
theorem Consistent.queue_run {state : Release} (valid : graph.Valid)
    (consistent : Consistent graph state) {steps : Nat}
    (enough : graph.ids.length ≤ state.released.length + steps) :
    (Release.run graph steps state).queue = [] := by
  induction steps generalizing state with
  | zero =>
      have := consistent.length_le
      exact List.eq_nil_of_length_eq_zero (by simp only [Release.run]; omega)
  | succ steps ih =>
      rw [Release.run]
      cases queue : state.queue with
      | nil => simpa using queue
      | cons id rest =>
          obtain ⟨released_eq, -, -⟩ := consistent.release queue
          apply ih (consistent.next valid)
          rw [released_eq, List.length_append, List.length_singleton]
          omega

end Release

/-! ## Released nodes -/

/-- The state in which the release of a graph ends. -/
theorem releasedIds_consistent (valid : graph.Valid) :
    ∃ state : Release, state.released = graph.releasedIds ∧ state.queue = [] ∧
      Release.Consistent graph state := by
  have consistent := Release.start_consistent valid
  refine ⟨_, rfl, consistent.queue_run valid ?_, consistent.run valid graph.nodes.length⟩
  simp [ids, Release.start]

theorem nodup_releasedIds (valid : graph.Valid) : graph.releasedIds.Nodup := by
  obtain ⟨state, released_eq, queue_eq, consistent⟩ := releasedIds_consistent valid
  have distinct := consistent.nodup
  rwa [queue_eq, released_eq, List.append_nil] at distinct

/-- Exactly those nodes are released whose predecessors all are. -/
theorem mem_releasedIds_iff (valid : graph.Valid) (id : String) :
    id ∈ graph.releasedIds ↔
      id ∈ graph.ids ∧ ∀ source, graph.Precedes source id → source ∈ graph.releasedIds := by
  obtain ⟨state, released_eq, queue_eq, consistent⟩ := releasedIds_consistent valid
  have released := consistent.mem_iff id
  rwa [queue_eq, List.append_nil, consistent.degree_eq, Int.natCast_eq_zero,
    openEdges_eq_zero_iff, released_eq] at released

theorem standsBefore_releasedIds (valid : graph.Valid) {source target : String}
    (precedes : graph.Precedes source target) (member : target ∈ graph.releasedIds) :
    StandsBefore graph.releasedIds source target := by
  obtain ⟨state, released_eq, _, consistent⟩ := releasedIds_consistent valid
  rw [← released_eq] at member ⊢
  exact consistent.ordered source target precedes member

end Workflow.Graph
