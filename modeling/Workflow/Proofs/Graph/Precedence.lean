import Mathlib.Logic.Relation
import Mathlib.Order.WellFoundedSet
import Workflow.Graph.Validity

/-!
# Precedence between nodes

The edges of a graph say which node comes before which.  A graph is acyclic when no node comes
before itself, however long the way.  The absence of cycles is used through a node without
predecessors: every finite selection of nodes that do not lead back to themselves has one.
-/

namespace Workflow.Graph

open Relation (TransGen)

variable {graph : Graph}

/-- Some edge leads from one node to the other. -/
def Precedes (graph : Graph) (source target : String) : Prop :=
  ∃ edge ∈ graph.edges, edge.source = source ∧ edge.target = target

/-- A directed path of at least one edge leads from one node to the other. -/
def Reaches (graph : Graph) : String → String → Prop := TransGen graph.Precedes

/-- No directed path leads back to where it began. -/
def Acyclic (graph : Graph) : Prop := ∀ id, ¬ graph.Reaches id id

/-- A node lies on a cycle or can be reached from one. -/
def HeldBack (graph : Graph) (id : String) : Prop :=
  graph.Reaches id id ∨ ∃ looping, graph.Reaches looping looping ∧ graph.Reaches looping id

theorem Acyclic.not_heldBack (acyclic : graph.Acyclic) (id : String) : ¬ graph.HeldBack id := by
  rintro (cycle | ⟨looping, cycle, -⟩)
  · exact acyclic id cycle
  · exact acyclic looping cycle

/-- Among finitely many nodes none of which leads back to itself, one has no predecessor. -/
theorem exists_first {chosen : Set String} (finite : chosen.Finite) (nonempty : chosen.Nonempty)
    (loopless : ∀ id ∈ chosen, ¬ graph.Reaches id id) :
    ∃ id ∈ chosen, ∀ other ∈ chosen, ¬ graph.Precedes other id := by
  have : Finite chosen := finite
  have : IsTrans chosen fun first second => graph.Reaches first second :=
    ⟨fun _ _ _ => TransGen.trans⟩
  have : Std.Irrefl fun first second : chosen => graph.Reaches first second :=
    ⟨fun id => loopless id id.2⟩
  have founded : WellFounded fun first second : chosen => graph.Reaches first second :=
    Finite.wellFounded_of_trans_of_irrefl _
  rcases nonempty with ⟨known, member⟩
  rcases founded.has_min Set.univ ⟨⟨known, member⟩, trivial⟩ with ⟨⟨first, firstMem⟩, -, least⟩
  refine ⟨first, firstMem, ?_⟩
  intro other otherMem precedes
  exact least ⟨other, otherMem⟩ trivial (TransGen.single precedes)

/-! ## Valid graphs -/

/-- The node ids are distinct, and every edge joins two different nodes of the graph. -/
structure Valid (graph : Graph) : Prop where
  nodup : graph.ids.Nodup
  source_mem : ∀ edge ∈ graph.edges, edge.source ∈ graph.ids
  target_mem : ∀ edge ∈ graph.edges, edge.target ∈ graph.ids
  source_ne_target : ∀ edge ∈ graph.edges, edge.source ≠ edge.target

/-- No id is repeated exactly when the ids are distinct and none was seen before. -/
theorem firstRepeated?_eq_none_iff (seen ids : List String) :
    firstRepeated? seen ids = none ↔ ids.Nodup ∧ ∀ id ∈ ids, id ∉ seen := by
  induction ids generalizing seen with
  | nil => simp [firstRepeated?]
  | cons id rest ih =>
      by_cases known : id ∈ seen
      · simp [firstRepeated?, known]
      · simp only [firstRepeated?, List.contains_iff_mem, known, if_false, ih, List.nodup_cons,
          List.mem_cons, not_or]
        constructor
        · rintro ⟨distinct, fresh⟩
          refine ⟨⟨fun member => (fresh id member).1 rfl, distinct⟩, ?_⟩
          rintro other (rfl | member)
          · exact known
          · exact (fresh other member).2
        · rintro ⟨⟨absent, distinct⟩, fresh⟩
          refine ⟨distinct, fun other member => ⟨?_, fresh other (Or.inr member)⟩⟩
          rintro rfl
          exact absent member

theorem edgeProblem?_eq_none_iff (ids : List String) (edge : Edge) :
    edgeProblem? ids edge = none ↔
      edge.source ∈ ids ∧ edge.target ∈ ids ∧ edge.source ≠ edge.target := by
  by_cases source : edge.source ∈ ids <;> by_cases target : edge.target ∈ ids <;>
    by_cases same : edge.source = edge.target <;> simp_all [edgeProblem?]

/-- Validation lets exactly the valid graphs pass. -/
theorem validate_eq_ok_iff (graph : Graph) : graph.validate = .ok () ↔ graph.Valid := by
  have passes : graph.validate = .ok () ↔ graph.firstProblem? = none := by
    unfold validate
    cases graph.firstProblem? <;> simp
  rw [passes, firstProblem?]
  cases repeated : firstRepeated? [] graph.ids with
  | some id =>
      simp only [reduceCtorEq, false_iff]
      intro valid
      have none := (firstRepeated?_eq_none_iff [] graph.ids).2 ⟨valid.nodup, by simp⟩
      rw [repeated] at none
      cases none
  | none =>
      have distinct := ((firstRepeated?_eq_none_iff [] graph.ids).1 repeated).1
      simp only [List.findSome?_eq_none_iff, Option.map_eq_none_iff, edgeProblem?_eq_none_iff]
      constructor
      · intro joined
        exact ⟨distinct, fun edge member => (joined edge member).1,
          fun edge member => (joined edge member).2.1,
          fun edge member => (joined edge member).2.2⟩
      · intro valid edge member
        exact ⟨valid.source_mem edge member, valid.target_mem edge member,
          valid.source_ne_target edge member⟩

end Workflow.Graph
