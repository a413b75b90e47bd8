import Mathlib.Data.Prod.Lex
import Mathlib.Order.Bounds.Basic
import Workflow.Proofs.Graph.TopologicalOrder

/-!
# Release keys

Where nodes may stand in either order, the edges decide.  An edge reaches its target when its source
is released; the last edge to do so releases the target.  The place of that source in the order of
release and the place of the edge in the graph are the release key of the node, and all nodes that
have incoming edges are released in the order of their keys.

The keys depend on the order that they describe.  They still determine it: a node comes after the
sources of its edges, so the nodes before it settle its key.
-/

namespace Workflow.Graph

variable {graph : Graph}

/-! ## Keys -/

/-- An edge reaches a node at a key: the place of its source among ids, and its own place among the
edges. -/
def ReachedAt (graph : Graph) (ids : List String) (id : String) (key : ℕ ×ₗ ℕ) : Prop :=
  ∃ edge, graph.edges[(ofLex key).2]? = some edge ∧ edge.target = id ∧
    ids[(ofLex key).1]? = some edge.source

/-- The release key of a node among ids is the largest key at which an edge reaches it. -/
def IsReleaseKey (graph : Graph) (ids : List String) (id : String) (key : ℕ ×ₗ ℕ) : Prop :=
  IsGreatest {key | graph.ReachedAt ids id key} key

/-- A node has a smaller release key than another. -/
def KeyedBefore (graph : Graph) (ids : List String) (first second : String) : Prop :=
  ∃ key later, graph.IsReleaseKey ids first key ∧ graph.IsReleaseKey ids second later ∧ key < later

/-- No edge leads to a node. -/
def IsEntry (graph : Graph) (id : String) : Prop := ∀ edge ∈ graph.edges, edge.target ≠ id

instance (graph : Graph) : DecidablePred graph.IsEntry :=
  fun id => inferInstanceAs (Decidable (∀ edge ∈ graph.edges, edge.target ≠ id))

/-- The ids of a graph with those of its entries first, as they stand in the graph, and all others
behind them by increasing release keys. -/
structure InKeyOrder (graph : Graph) (ids : List String) : Prop where
  perm : ids.Perm graph.ids
  entries_first : ids = graph.ids.filter graph.IsEntry ++ ids.filter (¬ graph.IsEntry ·)
  keyed : ∀ id ∈ ids, ¬ graph.IsEntry id → ∃ key, graph.IsReleaseKey ids id key
  increasing : (ids.filter (¬ graph.IsEntry ·)).Pairwise (graph.KeyedBefore ids)

theorem IsReleaseKey.unique {ids : List String} {id : String} {key other : ℕ ×ₗ ℕ}
    (isKey : graph.IsReleaseKey ids id key) (isOther : graph.IsReleaseKey ids id other) :
    key = other :=
  IsGreatest.unique isKey isOther

/-- A release key rests on the ids of the sources, wherever else ids are added. -/
theorem IsReleaseKey.congr {ids others : List String} {id : String} {key : ℕ ×ₗ ℕ}
    (isKey : graph.IsReleaseKey ids id key)
    (same : ∀ source, graph.Precedes source id →
      ∀ i : ℕ, ids[i]? = some source ↔ others[i]? = some source) :
    graph.IsReleaseKey others id key := by
  have reached_iff : ∀ key, graph.ReachedAt others id key ↔ graph.ReachedAt ids id key := by
    intro key
    refine exists_congr fun edge => and_congr_right fun edgeAt => and_congr_right fun into => ?_
    exact (same edge.source ⟨edge, List.mem_of_getElem? edgeAt, rfl, into⟩ _).symm
  simpa only [IsReleaseKey, reached_iff] using isKey

theorem KeyedBefore.congr {ids others : List String} {first second : String}
    (before : graph.KeyedBefore ids first second)
    (same : ∀ target, target = first ∨ target = second → ∀ source, graph.Precedes source target →
      ∀ i : ℕ, ids[i]? = some source ↔ others[i]? = some source) :
    graph.KeyedBefore others first second := by
  rcases before with ⟨key, later, isKey, isLater, smaller⟩
  exact ⟨key, later, isKey.congr (same first (Or.inl rfl)),
    isLater.congr (same second (Or.inr rfl)), smaller⟩

/-! ## The last edge from one node to another -/

/-- The last of the edges from one node to another stands at a place. -/
def IsLastEdge (edges : List Edge) (source target : String) (place : ℕ) : Prop :=
  IsGreatest {n | ∃ edge, edges[n]? = some edge ∧ edge.source = source ∧ edge.target = target} place

/-- The last edge from a node to one of its targets stands before the last edge to another. -/
def LastBefore (edges : List Edge) (source first second : String) : Prop :=
  ∃ m n, IsLastEdge edges source first m ∧ IsLastEdge edges source second n ∧ m < n

/-- The targets of the edges that leave a node. -/
def targetsFrom (edges : List Edge) (source : String) : List String :=
  (edges.filter (·.source = source)).map (·.target)

theorem targetsFrom_cons (edge : Edge) (edges : List Edge) (source : String) :
    targetsFrom (edge :: edges) source =
      if edge.source = source then edge.target :: targetsFrom edges source
      else targetsFrom edges source := by
  by_cases leaves : edge.source = source <;> simp [targetsFrom, leaves]

section LastEdge

variable {edges : List Edge} {edge : Edge} {source target first second : String} {place : ℕ}

theorem IsLastEdge.cons (isLast : IsLastEdge edges source target place) (edge : Edge) :
    IsLastEdge (edge :: edges) source target (place + 1) := by
  refine ⟨by simpa using isLast.1, ?_⟩
  rintro (_ | n) ⟨other, otherAt, leaves, into⟩
  · omega
  · have := isLast.2 ⟨other, by simpa using otherAt, leaves, into⟩
    omega

/-- The first edge is the last to its target when the others do not lead there. -/
theorem isLastEdge_head (absent : edge.target ∉ targetsFrom edges edge.source) :
    IsLastEdge (edge :: edges) edge.source edge.target 0 := by
  refine ⟨⟨edge, rfl, rfl, rfl⟩, ?_⟩
  rintro (_ | n) ⟨other, otherAt, leaves, into⟩
  · rfl
  · refine absurd ?_ absent
    have member : other ∈ edges := List.mem_of_getElem? (by simpa using otherAt)
    rw [← into]
    exact List.mem_map_of_mem (List.mem_filter.2 ⟨member, by simpa using leaves⟩)

theorem exists_isLastEdge (member : target ∈ targetsFrom edges source) :
    ∃ place, IsLastEdge edges source target place := by
  induction edges with
  | nil => cases member
  | cons edge rest ih =>
      by_cases later : target ∈ targetsFrom rest source
      · rcases ih later with ⟨place, isLast⟩
        exact ⟨place + 1, isLast.cons edge⟩
      · rw [targetsFrom_cons] at member
        split at member
        · rename_i leaves
          obtain rfl : target = edge.target := by simpa [later] using member
          subst leaves
          exact ⟨0, isLastEdge_head later⟩
        · exact absurd member later

theorem LastBefore.cons (before : LastBefore edges source first second) (edge : Edge) :
    LastBefore (edge :: edges) source first second := by
  rcases before with ⟨m, n, firstLast, secondLast, smaller⟩
  exact ⟨m + 1, n + 1, firstLast.cons edge, secondLast.cons edge, by omega⟩

/-- Listed where they occur last, the targets of the edges from a node follow the places of the last
edges to them. -/
theorem pairwise_dedup_targetsFrom (edges : List Edge) (source : String) :
    (targetsFrom edges source).dedup.Pairwise (LastBefore edges source) := by
  induction edges with
  | nil => simp [targetsFrom]
  | cons edge rest ih =>
      have shifted := ih.imp fun before => before.cons edge
      rw [targetsFrom_cons]
      split
      · rename_i leaves
        subst leaves
        by_cases later : edge.target ∈ targetsFrom rest edge.source
        · rwa [List.dedup_cons_of_mem later]
        · rw [List.dedup_cons_of_notMem later]
          refine List.pairwise_cons.2 ⟨?_, shifted⟩
          intro target member
          rcases exists_isLastEdge (List.mem_dedup.1 member) with ⟨place, isLast⟩
          exact ⟨0, place + 1, isLastEdge_head later, isLast.cons edge, by omega⟩
      · exact shifted

end LastEdge

/-! ## Keys of nodes that join the queue -/

/-- The key of a node that is released by another: the place of that other node among the ids, which
end with it, and the place of the last edge between the two. -/
theorem isReleaseKey_concat {released : List String} {id target : String} {place : ℕ}
    (fresh : id ∉ released) (isLast : IsLastEdge graph.edges id target place) :
    graph.IsReleaseKey (released ++ [id]) target (toLex (released.length, place)) := by
  constructor
  · rcases isLast.1 with ⟨edge, edgeAt, rfl, into⟩
    exact ⟨edge, edgeAt, into, by simp⟩
  · rintro key ⟨edge, edgeAt, into, sourceAt⟩
    obtain ⟨inside, -⟩ := List.getElem?_eq_some_iff.1 sourceAt
    rw [List.length_append, List.length_singleton] at inside
    rw [Prod.Lex.le_iff]
    rcases Nat.lt_or_eq_of_le (Nat.le_of_lt_succ inside) with smaller | equal
    · exact Or.inl smaller
    · refine Or.inr ⟨equal, isLast.2 ⟨edge, edgeAt, ?_, into⟩⟩
      rw [equal] at sourceAt
      simpa using sourceAt.symm

theorem getElem?_concat_iff {released : List String} {id source : String} (other : source ≠ id)
    (i : ℕ) : released[i]? = some source ↔ (released ++ [id])[i]? = some source := by
  rcases Nat.lt_trichotomy i released.length with inside | rfl | beyond
  · rw [List.getElem?_append_left inside]
  · simp [Ne.symm other]
  · rw [List.getElem?_eq_none (by omega), List.getElem?_eq_none (by simp; omega)]

namespace Release

/-- What was released or waits in a state is in key order: the entries, as they stand in the graph,
and behind them the given nodes by increasing keys. -/
structure Keyed (graph : Graph) (state : Release) (later : List String) : Prop where
  entries_first : state.released ++ state.queue = graph.ids.filter graph.IsEntry ++ later
  keyed : ∀ id ∈ later, ∃ key, graph.IsReleaseKey state.released id key
  increasing : later.Pairwise (graph.KeyedBefore state.released)

theorem start_keyed (graph : Graph) : Keyed graph (start graph) [] where
  entries_first := by
    have entry_iff : ∀ id ∈ graph.ids,
        decide (graph.inDegree id = 0) = decide (graph.IsEntry id) := by
      intro id _
      refine decide_eq_decide.2 ?_
      rw [inDegree, Int.natCast_eq_zero, List.countP_eq_zero]
      simp [IsEntry]
    simp [start, List.filter_congr entry_iff]
  keyed := by simp
  increasing := .nil

/-- Releasing a node appends the nodes that it releases in turn, with larger keys. -/
theorem Keyed.next {state : Release} {later : List String} (keyed : Keyed graph state later)
    (consistent : Consistent graph state) {id : String} {rest : List String}
    (queue : state.queue = id :: rest) :
    Keyed graph (next graph state) (later ++ graph.joining state.released id) := by
  rcases consistent.release queue with ⟨released_eq, queue_eq, -⟩
  have fresh : id ∉ state.released := by
    have distinct := consistent.nodup
    rw [queue, List.nodup_append] at distinct
    exact fun member => distinct.2.2 id member id List.mem_cons_self rfl
  -- The sources of a node that waits or was released are released, and so its key is settled.
  have settled : ∀ target ∈ later, ∀ source, graph.Precedes source target → ∀ i : ℕ,
      state.released[i]? = some source ↔ (state.released ++ [id])[i]? = some source := by
    intro target member source precedes
    have known : target ∈ state.released ++ state.queue := by
      rw [keyed.entries_first]
      exact List.mem_append_right _ member
    have closed := ((consistent.mem_iff target).1 known).2
    rw [consistent.degree_eq, Int.natCast_eq_zero, openEdges_eq_zero_iff] at closed
    apply getElem?_concat_iff
    rintro rfl
    exact fresh (closed source precedes)
  have joins : ∀ target ∈ graph.joining state.released id, ∃ place,
      graph.IsReleaseKey (state.released ++ [id]) target (toLex (state.released.length, place)) := by
    intro target member
    rcases exists_isLastEdge (mem_joining_iff.1 member).1 with ⟨place, isLast⟩
    exact ⟨place, isReleaseKey_concat fresh isLast⟩
  constructor
  · have known := keyed.entries_first
    rw [queue] at known
    rw [released_eq, queue_eq, ← List.append_assoc _ later, ← known]
    simp
  · rw [released_eq]
    intro target member
    rcases List.mem_append.1 member with old | new
    · rcases keyed.keyed target old with ⟨key, isKey⟩
      exact ⟨key, isKey.congr (settled target old)⟩
    · rcases joins target new with ⟨place, isKey⟩
      exact ⟨_, isKey⟩
  · rw [released_eq]
    refine List.pairwise_append.2 ⟨?_, ?_, ?_⟩
    · refine keyed.increasing.imp_of_mem ?_
      intro first second firstMem secondMem before
      refine before.congr ?_
      rintro target (rfl | rfl)
      · exact settled target firstMem
      · exact settled target secondMem
    · refine ((pairwise_dedup_targetsFrom graph.edges id).sublist List.filter_sublist).imp ?_
      rintro first second ⟨m, n, firstLast, secondLast, smaller⟩
      exact ⟨_, _, isReleaseKey_concat fresh firstLast, isReleaseKey_concat fresh secondLast,
        Prod.Lex.lt_iff.2 (Or.inr ⟨rfl, smaller⟩)⟩
    · intro first firstMem second secondMem
      rcases keyed.keyed first firstMem with ⟨key, isKey⟩
      rcases joins second secondMem with ⟨place, isLater⟩
      refine ⟨key, _, isKey.congr (settled first firstMem), isLater, ?_⟩
      rcases isKey.1 with ⟨edge, -, -, sourceAt⟩
      exact Prod.Lex.lt_iff.2 (Or.inl (List.getElem?_eq_some_iff.1 sourceAt).1)

theorem exists_keyed_run (valid : graph.Valid) {state : Release}
    (consistent : Consistent graph state) {later : List String} (keyed : Keyed graph state later)
    (steps : Nat) : ∃ later, Keyed graph (run graph steps state) later := by
  induction steps generalizing state later with
  | zero => exact ⟨later, keyed⟩
  | succ steps ih =>
      rw [run]
      cases queue : state.queue with
      | nil => exact ⟨later, keyed⟩
      | cons id rest => exact ih (consistent.next valid) (keyed.next consistent queue)

end Release

theorem IsReleaseKey.not_isEntry {ids : List String} {id : String} {key : ℕ ×ₗ ℕ}
    (isKey : graph.IsReleaseKey ids id key) : ¬ graph.IsEntry id := by
  rcases isKey.1 with ⟨edge, edgeAt, into, -⟩
  exact fun entry => entry edge (List.mem_of_getElem? edgeAt) into

/-- The nodes of an acyclic graph are released in key order. -/
theorem inKeyOrder_releasedIds (valid : graph.Valid) (acyclic : graph.Acyclic) :
    graph.InKeyOrder graph.releasedIds := by
  have consistent := Release.start_consistent valid
  have emptied : (Release.run graph graph.nodes.length (Release.start graph)).queue = [] :=
    consistent.queue_run valid (by simp [ids, Release.start])
  rcases Release.exists_keyed_run valid consistent (Release.start_keyed graph) graph.nodes.length with
    ⟨later, keyed⟩
  have split : graph.releasedIds = graph.ids.filter graph.IsEntry ++ later := by
    rw [← keyed.entries_first, emptied, List.append_nil]
    rfl
  have laterOnes : graph.releasedIds.filter (¬ graph.IsEntry ·) = later := by
    have others : ∀ id ∈ later, decide (¬ graph.IsEntry id) = true := by
      intro id member
      rcases keyed.keyed id member with ⟨key, isKey⟩
      exact decide_eq_true isKey.not_isEntry
    rw [split, List.filter_append, List.filter_eq_self.2 others, List.filter_filter]
    simp
  constructor
  · exact releasedIds_perm_of_acyclic valid acyclic
  · rwa [laterOnes]
  · intro id member other
    refine keyed.keyed id ?_
    rw [← laterOnes]
    exact List.mem_filter.2 ⟨member, decide_eq_true other⟩
  · rw [laterOnes]
    exact keyed.increasing

/-! ## The order that the keys determine -/

section Determined

variable {ids others : List String} {id source first second : String} {key : ℕ ×ₗ ℕ} {place : ℕ}

/-- What stands behind a node that is no entry is no entry either and has a larger key. -/
theorem InKeyOrder.keyedBefore (order : graph.InKeyOrder ids) {i j : ℕ} (smaller : i < j)
    (firstAt : ids[i]? = some first) (secondAt : ids[j]? = some second)
    (later : ¬ graph.IsEntry first) :
    ¬ graph.IsEntry second ∧ graph.KeyedBefore ids first second := by
  obtain ⟨behind, behind_eq⟩ : ∃ behind, behind = ids.filter (¬ graph.IsEntry ·) := ⟨_, rfl⟩
  have split : ids = graph.ids.filter graph.IsEntry ++ behind := by
    rw [behind_eq]
    exact order.entries_first
  have increasing := order.increasing
  rw [← behind_eq] at increasing
  rw [split, List.getElem?_append] at firstAt secondAt
  split at firstAt
  · have entry := (List.mem_filter.1 (List.mem_of_getElem? firstAt)).2
    exact absurd (of_decide_eq_true entry) later
  · rw [if_neg (by omega)] at secondAt
    have member := List.mem_of_getElem? secondAt
    rw [behind_eq] at member
    refine ⟨of_decide_eq_true (List.mem_filter.1 member).2, ?_⟩
    rcases List.getElem?_eq_some_iff.1 firstAt with ⟨firstInside, rfl⟩
    rcases List.getElem?_eq_some_iff.1 secondAt with ⟨secondInside, rfl⟩
    exact List.pairwise_iff_getElem.1 increasing _ _ firstInside secondInside (by omega)

/-- A node stands behind the source of the edge that gives it its key. -/
theorem InKeyOrder.source_before (valid : graph.Valid) (order : graph.InKeyOrder ids)
    (idAt : ids[place]? = some id) (isKey : graph.IsReleaseKey ids id key) :
    (ofLex key).1 < place := by
  -- A source behind its target would have a larger key, and so a source still further behind.
  induction left : ids.length - place using Nat.strong_induction_on generalizing place id key with
  | _ n ih =>
      rcases isKey.1 with ⟨edge, edgeAt, into, sourceAt⟩
      by_contra notBefore
      have apart : place ≠ (ofLex key).1 := by
        intro same
        rw [← same, idAt] at sourceAt
        exact valid.source_ne_target edge (List.mem_of_getElem? edgeAt)
          ((Option.some.inj sourceAt).symm.trans into.symm)
      have behind : place < (ofLex key).1 := by omega
      rcases order.keyedBefore behind idAt sourceAt isKey.not_isEntry with
        ⟨-, known, later, isKnown, isLater, smaller⟩
      obtain rfl := isKey.unique isKnown
      have inside := (List.getElem?_eq_some_iff.1 sourceAt).1
      have further := ih (ids.length - (ofLex key).1) (by omega) sourceAt isLater rfl
      rcases Prod.Lex.lt_iff.1 smaller with less | ⟨same, -⟩
      · omega
      · omega

/-- The sources of the edges to a node stand before it. -/
theorem InKeyOrder.exists_before (valid : graph.Valid) (order : graph.InKeyOrder ids)
    (idAt : ids[place]? = some id) (precedes : graph.Precedes source id) :
    ∃ i < place, ids[i]? = some source := by
  rcases precedes with ⟨edge, member, rfl, into⟩
  have known : edge.source ∈ ids := order.perm.mem_iff.2 (valid.source_mem edge member)
  rcases List.mem_iff_getElem?.1 known with ⟨i, sourceAt⟩
  rcases List.mem_iff_getElem?.1 member with ⟨n, edgeAt⟩
  rcases order.keyed id (List.mem_of_getElem? idAt) (fun entry => entry edge member into) with
    ⟨key, isKey⟩
  have below : toLex (i, n) ≤ key := isKey.2 ⟨edge, edgeAt, into, sourceAt⟩
  have before := order.source_before valid idAt isKey
  refine ⟨i, ?_, sourceAt⟩
  rcases Prod.Lex.le_iff.1 below with less | ⟨same, -⟩
  · exact Nat.lt_trans less before
  · exact lt_of_eq_of_lt same before

/-- Two lists of ids that agree before a node give it the same key. -/
theorem InKeyOrder.transfer (valid : graph.Valid) (order : graph.InKeyOrder ids)
    (other : graph.InKeyOrder others) (agree : ∀ i < place, ids[i]? = others[i]?)
    (idAt : ids[place]? = some id) (isKey : graph.IsReleaseKey ids id key) :
    graph.IsReleaseKey others id key := by
  apply isKey.congr
  intro source precedes i
  rcases order.exists_before valid idAt precedes with ⟨j, before, sourceAt⟩
  have at_eq : ∀ {items : List String}, items.Nodup → items[j]? = some source →
      (items[i]? = some source ↔ i = j) := by
    intro items distinct found
    constructor
    · intro foundToo
      exact (List.getElem?_inj (List.getElem?_eq_some_iff.1 foundToo).1 distinct).1
        (foundToo.trans found.symm)
    · rintro rfl
      exact found
  have sourceAt' : others[j]? = some source := (agree j before).symm.trans sourceAt
  rw [at_eq (order.perm.nodup_iff.2 valid.nodup) sourceAt,
    at_eq (other.perm.nodup_iff.2 valid.nodup) sourceAt']

/-- Where two lists in key order differ first, the node of the one has the smaller key there. -/
theorem InKeyOrder.keyedBefore_of_agree (valid : graph.Valid) (order : graph.InKeyOrder ids)
    (other : graph.InKeyOrder others) (agree : ∀ i < place, ids[i]? = others[i]?)
    (firstAt : ids[place]? = some first) (secondAt : others[place]? = some second)
    (different : first ≠ second) (later : ¬ graph.IsEntry first) :
    graph.KeyedBefore ids first second := by
  have known : second ∈ ids :=
    order.perm.mem_iff.2 (other.perm.mem_iff.1 (List.mem_of_getElem? secondAt))
  rcases List.mem_iff_getElem?.1 known with ⟨i, foundAt⟩
  rcases Nat.lt_trichotomy i place with before | rfl | behind
  · have foundToo := (agree i before).symm.trans foundAt
    have same := (List.getElem?_inj (List.getElem?_eq_some_iff.1 foundToo).1
      (other.perm.nodup_iff.2 valid.nodup)).1 (foundToo.trans secondAt.symm)
    omega
  · exact absurd (Option.some.inj (firstAt.symm.trans foundAt)) different
  · exact (order.keyedBefore behind firstAt foundAt later).2

/-- At most one order of the ids of a valid graph is in key order. -/
theorem InKeyOrder.unique (valid : graph.Valid) (order : graph.InKeyOrder ids)
    (other : graph.InKeyOrder others) : ids = others := by
  have length_eq : ids.length = others.length :=
    order.perm.length_eq.trans other.perm.length_eq.symm
  refine List.ext_getElem? fun place => ?_
  induction place using Nat.strong_induction_on with
  | _ place agree =>
      rcases Nat.lt_or_ge place ids.length with inside | outside
      · obtain ⟨first, firstAt⟩ : ∃ first, ids[place]? = some first :=
          ⟨_, List.getElem?_eq_getElem inside⟩
        obtain ⟨second, secondAt⟩ : ∃ second, others[place]? = some second :=
          ⟨_, List.getElem?_eq_getElem (length_eq ▸ inside)⟩
        by_contra unlike
        have different : first ≠ second := by
          rintro rfl
          exact unlike (firstAt.trans secondAt.symm)
        rcases Nat.lt_or_ge place (graph.ids.filter graph.IsEntry).length with among | behind
        · apply unlike
          rw [order.entries_first, other.entries_first, List.getElem?_append_left among,
            List.getElem?_append_left among]
        · have behind_entries : ∀ {items : List String} {id : String}, graph.InKeyOrder items →
              items[place]? = some id → ¬ graph.IsEntry id := by
            intro items id ordered idAt
            rw [ordered.entries_first, List.getElem?_append_right behind] at idAt
            exact of_decide_eq_true (List.mem_filter.1 (List.mem_of_getElem? idAt)).2
          rcases order.keyedBefore_of_agree valid other agree firstAt secondAt different
            (behind_entries order firstAt) with ⟨key, later, isKey, isLater, smaller⟩
          have agree' : ∀ i < place, others[i]? = ids[i]? := fun i before => (agree i before).symm
          rcases other.keyedBefore_of_agree valid order agree' secondAt firstAt (Ne.symm different)
            (behind_entries other secondAt) with ⟨key', later', isKey', isLater', smaller'⟩
          obtain rfl := (order.transfer valid other agree firstAt isKey).unique isLater'
          obtain rfl := (other.transfer valid order agree' secondAt isKey').unique isLater
          exact absurd smaller' (not_lt_of_gt smaller)
      · rw [List.getElem?_eq_none outside, List.getElem?_eq_none (length_eq ▸ outside)]

end Determined

/-! ## The order of release -/

/-- A valid graph without cycles is released in key order: first the nodes without incoming edges, as
they stand in the graph, and then all others by increasing release keys.  No other order of its nodes
is in key order. -/
theorem releaseOrder_by_keys (graph : Graph) (validated : graph.validate = .ok ())
    (acyclic : graph.Acyclic) :
    ∃ order, graph.releaseOrder = .ok order ∧ order.Perm graph.nodes ∧
      graph.InKeyOrder (order.map (·.id)) ∧
      ∀ ids, graph.InKeyOrder ids → ids = order.map (·.id) := by
  have valid := (validate_eq_ok_iff graph).1 validated
  have complete := (length_releasedIds_eq_iff valid).2 acyclic
  have ordered := (releaseOrder_eq_ok_iff _).2 ⟨complete, rfl⟩
  have inOrder := inKeyOrder_releasedIds valid acyclic
  refine ⟨_, ordered, (releaseOrder_isTopologicalOrder valid ordered).perm, ?_⟩
  rw [map_id_releaseOrder valid ordered]
  exact ⟨inOrder, fun ids isOrder => isOrder.unique valid inOrder⟩

/-- The last of two parallel edges decides, and neither the first of them nor the places of the
nodes. -/
theorem releaseOrder_by_keys_parallel :
    let node (id : String) : Node := { id, kind := .find }
    let graph : Graph :=
      { nodes := [node "b", node "c", node "a"],
        edges := [⟨"1", "a", "b"⟩, ⟨"2", "a", "c"⟩, ⟨"3", "a", "b"⟩] }
    graph.validate = .ok () ∧ graph.Acyclic ∧
      graph.releaseOrder = .ok [node "a", node "c", node "b"] ∧
      graph.InKeyOrder ["a", "c", "b"] := by
  intro node graph
  have valid : graph.validate = .ok () := rfl
  have acyclic : graph.Acyclic :=
    (length_releasedIds_eq_iff ((validate_eq_ok_iff graph).1 valid)).1 rfl
  have ordered : graph.releaseOrder = .ok [node "a", node "c", node "b"] := rfl
  rcases releaseOrder_by_keys graph valid acyclic with ⟨order, order_eq, -, inOrder, -⟩
  obtain rfl := Except.ok.inj (order_eq.symm.trans ordered)
  exact ⟨valid, acyclic, ordered, inOrder⟩

end Workflow.Graph
