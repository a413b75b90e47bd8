import Workflow.Proofs.Graph.TopologicalOrder

/-!
# The release as a loop

Each iteration of the release takes one node out of the queue and then counts off its outgoing edges,
one after the other.  What holds of the degrees and of the queue is said here of every moment of that
loop, also of those within an iteration: an edge is open until it is counted off, a node joins the
queue with its last edge, and none joins twice.

As every iteration releases another node, the loop ends within as many iterations as there are nodes,
cycles or not, and the nodes it has not released are those that the numbers of nodes tell to be
missing.
-/

namespace Workflow.Graph

variable {graph : Graph}

namespace Release

/-- The loop comes to a state in its given iteration, counted from one, with the edges to the pending
targets still to be counted off; `joined` lists the ids that have joined the queue up to then, in
order. -/
inductive Passes (graph : Graph) : Nat → List String → Release → List String → Prop where
  | start : Passes graph 0 (start graph).queue (start graph) []
  | dequeue {iteration : Nat} {joined : List String} {state : Release} {id : String}
      {rest : List String} (passed : Passes graph iteration joined state [])
      (waiting : state.queue = id :: rest) :
      Passes graph (iteration + 1) joined
        { state with queue := rest, released := state.released ++ [id] } (graph.successors id)
  | countOff {iteration : Nat} {joined : List String} {state : Release} {target : String}
      {pending : List String} (passed : Passes graph iteration joined state (target :: pending)) :
      Passes graph iteration
        (if state.degree target - 1 = 0 then joined ++ [target] else joined)
        (state.countOff target) pending

/-! ## What holds throughout -/

/-- What holds at every moment of the loop. -/
structure Holds (graph : Graph) (iteration : Nat) (joined : List String) (state : Release)
    (pending : List String) : Prop where
  /-- Open are the edges from nodes not yet released and those that are pending. -/
  degree_eq : ∀ id, state.degree id = graph.openEdges state.released id + pending.count id
  closed : ∀ id ∈ state.released ++ state.queue, id ∈ graph.ids ∧ state.degree id = 0
  joined_eq : joined = state.released ++ state.queue
  nodup : joined.Nodup
  length_eq : state.released.length = iteration
  pending_mem : ∀ id ∈ pending, id ∈ graph.ids

variable {iteration : Nat} {joined pending rest : List String} {state : Release}
  {id target : String}

theorem holds_start (valid : graph.Valid) :
    Holds graph 0 (start graph).queue (start graph) [] where
  degree_eq id := by simp [start, inDegree, openEdges]
  closed id member := by simpa [start] using member
  joined_eq := rfl
  nodup := valid.nodup.filter _
  length_eq := rfl
  pending_mem := by simp

/-- When a node is taken out of the queue, its outgoing edges become pending and stay open. -/
theorem Holds.dequeue (valid : graph.Valid) (holds : Holds graph iteration joined state [])
    (waiting : state.queue = id :: rest) :
    Holds graph (iteration + 1) joined
      { state with queue := rest, released := state.released ++ [id] } (graph.successors id) := by
  have same : state.released ++ state.queue = (state.released ++ [id]) ++ rest := by
    rw [waiting, List.append_assoc, List.singleton_append]
  have fresh : id ∉ state.released := by
    have distinct := holds.nodup
    rw [holds.joined_eq, waiting, List.nodup_append] at distinct
    exact fun member => distinct.2.2 id member id List.mem_cons_self rfl
  refine ⟨?_, ?_, ?_, holds.nodup, ?_, ?_⟩
  · intro other
    have open_eq := holds.degree_eq other
    rw [openEdges_concat fresh] at open_eq
    simpa using open_eq
  · rw [← same]
    exact holds.closed
  · exact holds.joined_eq.trans same
  · rw [List.length_append, holds.length_eq, List.length_singleton]
  · intro other member
    obtain ⟨edge, among, rfl⟩ := List.mem_map.1 member
    exact valid.target_mem edge (List.mem_of_mem_filter among)

/-- Counting off a pending edge closes it; if that was the last edge into its target, the target
joins the queue, which it has not done before. -/
theorem Holds.countOff (holds : Holds graph iteration joined state (target :: pending)) :
    Holds graph iteration
      (if state.degree target - 1 = 0 then joined ++ [target] else joined)
      (state.countOff target) pending := by
  have target_open : 0 < state.degree target := by
    rw [holds.degree_eq, List.count_cons_self]
    omega
  have fresh : target ∉ state.released ++ state.queue := by
    intro member
    have zero := (holds.closed target member).2
    omega
  have others {other : String} (different : other ≠ target) :
      (state.countOff target).degree other = state.degree other := by
    rw [countOff_degree, if_neg different]
  have joined_eq : (if state.degree target - 1 = 0 then joined ++ [target] else joined) =
      (state.countOff target).released ++ (state.countOff target).queue := by
    rw [countOff_released, countOff_queue, holds.joined_eq]
    split
    · rw [List.append_assoc]
    · rfl
  refine ⟨?_, ?_, joined_eq, ?_, holds.length_eq, fun other member =>
    holds.pending_mem other (List.mem_cons_of_mem _ member)⟩
  · intro other
    have open_eq := holds.degree_eq other
    by_cases same : other = target
    · subst same
      rw [List.count_cons_self] at open_eq
      rw [countOff_degree, if_pos rfl, countOff_released]
      omega
    · rw [List.count_cons_of_ne (Ne.symm same)] at open_eq
      rw [others same, countOff_released, open_eq]
  · intro other member
    rw [countOff_released, countOff_queue] at member
    have old_or_new : other ∈ state.released ++ state.queue ∨
        other = target ∧ state.degree target - 1 = 0 := by
      split at member
      · rename_i last
        rw [← List.append_assoc, List.mem_append, List.mem_singleton] at member
        exact member.imp_right fun same => ⟨same, last⟩
      · exact Or.inl member
    rcases old_or_new with old | ⟨rfl, last⟩
    · have different : other ≠ target := fun same => fresh (same ▸ old)
      rw [others different]
      exact holds.closed other old
    · refine ⟨holds.pending_mem other List.mem_cons_self, ?_⟩
      rwa [countOff_degree, if_pos rfl]
  · split
    · rw [holds.joined_eq]
      refine List.Nodup.append (holds.joined_eq ▸ holds.nodup) (List.nodup_singleton target) ?_
      rwa [List.disjoint_singleton]
    · exact holds.nodup

/-- The invariant holds at every moment of the loop. -/
theorem Passes.holds (valid : graph.Valid) (passed : Passes graph iteration joined state pending) :
    Holds graph iteration joined state pending := by
  induction passed with
  | start => exact holds_start valid
  | dequeue _ waiting ih => exact ih.dequeue valid waiting
  | countOff _ ih => exact ih.countOff

/-- The loop has as many iterations as it has released nodes, and these are distinct nodes. -/
theorem Holds.iteration_le (holds : Holds graph iteration joined state pending) :
    iteration ≤ graph.nodes.length := by
  have distinct : state.released.Nodup := by
    have distinct := holds.nodup
    rw [holds.joined_eq] at distinct
    exact distinct.of_append_left
  have known : state.released ⊆ graph.ids := fun id member =>
    (holds.closed id (List.mem_append_left _ member)).1
  calc iteration = state.released.length := holds.length_eq.symm
    _ ≤ graph.ids.length := (List.subperm_of_subset distinct known).length_le
    _ = graph.nodes.length := List.length_map ..

/-! ## The end of the loop -/

/-- The pending edges are all counted off before the next iteration. -/
theorem Passes.exists_done (passed : Passes graph iteration joined state pending) :
    ∃ later, Passes graph iteration later (pending.foldl Release.countOff state) [] := by
  induction pending generalizing joined state with
  | nil => exact ⟨joined, passed⟩
  | cons target pending ih => exact ih passed.countOff

/-- A whole iteration is one step of the release. -/
theorem Passes.exists_next (passed : Passes graph iteration joined state [])
    (waiting : state.queue = id :: rest) :
    ∃ later, Passes graph (iteration + 1) later (next graph state) [] := by
  have next_eq : next graph state = (graph.successors id).foldl Release.countOff
      { state with queue := rest, released := state.released ++ [id] } := by
    rw [next, waiting]
  rw [next_eq]
  exact (passed.dequeue waiting).exists_done

/-- From every iteration on the loop comes to its end. -/
theorem Passes.exists_end (valid : graph.Valid) (passed : Passes graph iteration joined state []) :
    ∃ last later final, Passes graph last later final [] ∧ final.queue = [] := by
  obtain ⟨left, enough⟩ : ∃ left, graph.nodes.length - iteration = left := ⟨_, rfl⟩
  induction left generalizing iteration joined state with
  | zero =>
      -- No node is left, so none waits.
      have within := (passed.holds valid).iteration_le
      cases waiting : state.queue with
      | nil => exact ⟨iteration, joined, state, passed, waiting⟩
      | cons id rest =>
          obtain ⟨later, following⟩ := passed.exists_next waiting
          have := (following.holds valid).iteration_le
          omega
  | succ left ih =>
      cases waiting : state.queue with
      | nil => exact ⟨iteration, joined, state, passed, waiting⟩
      | cons id rest =>
          obtain ⟨later, following⟩ := passed.exists_next waiting
          exact ih following (by omega)

theorem next_of_idle (idle : state.queue = []) : next graph state = state := by
  rw [next, idle]

theorem run_eq_iterate (graph : Graph) (steps : Nat) (state : Release) :
    run graph steps state = (next graph)^[steps] state := by
  induction steps generalizing state with
  | zero => rfl
  | succ steps ih =>
      rw [run, Function.iterate_succ_apply, ih]
      cases waiting : state.queue with
      | nil =>
          rw [next_of_idle waiting, Function.iterate_fixed (next_of_idle waiting)]
          rfl
      | cons id rest => rfl

/-- With its pending edges counted off, a moment of the loop is what its iterations come to. -/
theorem Passes.foldl_pending (passed : Passes graph iteration joined state pending) :
    pending.foldl Release.countOff state = (next graph)^[iteration] (Release.start graph) := by
  induction passed with
  | start => rfl
  | dequeue _ waiting ih =>
      rw [Function.iterate_succ_apply', ← ih, List.foldl_nil, next, waiting]
  | countOff _ ih => exact ih

/-- Where the loop ends, exactly the nodes in the order of their release are released. -/
theorem Passes.released_eq (valid : graph.Valid) (passed : Passes graph iteration joined state [])
    (idle : state.queue = []) : state.released = graph.releasedIds := by
  have state_eq : state = (next graph)^[iteration] (Release.start graph) := passed.foldl_pending
  obtain ⟨more, whole⟩ := Nat.exists_eq_add_of_le' (passed.holds valid).iteration_le
  rw [releasedIds, run_eq_iterate, whole, Function.iterate_add_apply, ← state_eq,
    Function.iterate_fixed (next_of_idle idle)]

end Release

/-! ## Unreleased nodes -/

/-- Fewer nodes are released than there are exactly when some node is not released. -/
theorem length_releasedIds_ne_iff (valid : graph.Valid) :
    graph.releasedIds.length ≠ graph.nodes.length ↔ ∃ id ∈ graph.ids, id ∉ graph.releasedIds := by
  have length_ids : graph.ids.length = graph.nodes.length := List.length_map ..
  have below : graph.releasedIds.Subperm graph.ids :=
    List.subperm_of_subset (nodup_releasedIds valid) (releasedIds_subset valid)
  constructor
  · intro fewer
    by_contra all
    push Not at all
    have above := (List.subperm_of_subset valid.nodup all).length_le
    have := below.length_le
    omega
  · rintro ⟨id, known, unreleased⟩ equal
    have perm := below.perm_of_length_le (by omega)
    exact unreleased (perm.mem_iff.2 known)

/-- The error names the nodes that are not released. -/
theorem releaseOrder_eq_cycle (valid : graph.Valid) (missing : List String) :
    graph.releaseOrder = .error (.cycle missing) ↔
      missing ≠ [] ∧ missing = graph.ids.filter (· ∉ graph.releasedIds) := by
  have listed : (graph.ids.filter fun id => !graph.releasedIds.contains id) =
      graph.ids.filter (· ∉ graph.releasedIds) := by
    simp
  have some_missing : graph.ids.filter (· ∉ graph.releasedIds) ≠ [] ↔
      graph.releasedIds.length ≠ graph.nodes.length := by
    rw [length_releasedIds_ne_iff valid, Ne, List.filter_eq_nil_iff]
    simp
  unfold releaseOrder
  dsimp only
  rw [listed]
  split
  · rename_i fewer
    simp only [Except.error.injEq, CompileError.cycle.injEq]
    constructor
    · rintro rfl
      exact ⟨some_missing.2 fewer, rfl⟩
    · rintro ⟨-, rfl⟩
      rfl
  · rename_i complete
    simp only [reduceCtorEq, false_iff, not_and]
    rintro nonempty rfl
    exact complete (some_missing.1 nonempty)

/-- At every moment of the release of a valid graph the degree of a node is the number of edges into it
that are not yet counted off, which at the beginning of an iteration are those whose sources have not
left the queue; whatever waits has degree zero, and no id has joined the queue twice.  The loop
therefore has no more iterations than there are nodes, comes to its end, and has then released the
nodes in their order of release; comparing numbers tells whether some are missing, and the error names
exactly these. -/
theorem release_loop_invariant (graph : Graph) (validated : graph.validate = .ok ()) :
    (∀ iteration joined state pending, Release.Passes graph iteration joined state pending →
      (∀ id, state.degree id = graph.openEdges state.released id + pending.count id ∧
        0 ≤ state.degree id) ∧
      (∀ id ∈ state.queue, state.degree id = 0) ∧
      joined = state.released ++ state.queue ∧ joined.Nodup ∧
      iteration = state.released.length ∧ iteration ≤ graph.nodes.length) ∧
    (∃ iteration joined state,
      Release.Passes graph iteration joined state [] ∧ state.queue = []) ∧
    (∀ iteration joined state, Release.Passes graph iteration joined state [] →
      state.queue = [] → state.released = graph.releasedIds) ∧
    (graph.releasedIds.length ≠ graph.nodes.length ↔
      ∃ id ∈ graph.ids, id ∉ graph.releasedIds) ∧
    ∀ missing, graph.releaseOrder = .error (.cycle missing) ↔
      missing ≠ [] ∧ missing = graph.ids.filter (· ∉ graph.releasedIds) := by
  have valid := (validate_eq_ok_iff graph).1 validated
  refine ⟨?_, ?_, ?_, length_releasedIds_ne_iff valid, releaseOrder_eq_cycle valid⟩
  · intro iteration joined state pending passed
    have holds := passed.holds valid
    refine ⟨fun id => ⟨holds.degree_eq id, ?_⟩, fun id member => ?_, holds.joined_eq, holds.nodup,
      holds.length_eq.symm, holds.iteration_le⟩
    · rw [holds.degree_eq]
      omega
    · exact (holds.closed id (List.mem_append_right _ member)).2
  · obtain ⟨iteration, joined, state, passed, idle⟩ := Release.Passes.start.exists_end valid
    exact ⟨iteration, joined, state, passed, idle⟩
  · intro iteration joined state passed idle
    exact passed.released_eq valid idle

/-- Two nodes of a cycle, one of them behind parallel edges, are missing when the loop ends. -/
theorem release_loop_invariant_cyclic :
    let node (id : String) : Node := { id, kind := .find }
    let graph : Graph :=
      { nodes := [node "c", node "b", node "a"],
        edges := [⟨"1", "a", "b"⟩, ⟨"2", "a", "b"⟩, ⟨"3", "b", "c"⟩, ⟨"4", "c", "b"⟩] }
    graph.validate = .ok () ∧
      (∃ iteration joined state, Release.Passes graph iteration joined state [] ∧
        state.queue = [] ∧ state.released = ["a"] ∧ state.degree "b" = 1) ∧
      graph.releaseOrder = .error (.cycle ["c", "b"]) := by
  intro node graph
  have validated : graph.validate = .ok () := rfl
  obtain ⟨holds, ⟨iteration, joined, state, passed, idle⟩, ends, -, names⟩ :=
    release_loop_invariant graph validated
  have released : state.released = ["a"] := ends iteration joined state passed idle
  have open_eq := ((holds iteration joined state [] passed).1 "b").1
  rw [released] at open_eq
  exact ⟨validated, ⟨iteration, joined, state, passed, idle, released, open_eq⟩,
    (names ["c", "b"]).2 ⟨by decide, rfl⟩⟩

end Workflow.Graph
