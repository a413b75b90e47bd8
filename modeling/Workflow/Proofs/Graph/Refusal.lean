import Workflow.Proofs.Graph.TopologicalOrder

/-!
# Graphs without a compiled form

A graph that is not valid or not acyclic is rejected with a compile error.  Any other graph compiles
unless one of its nodes names an output variable that is no text, which is no compile error.
-/

namespace Workflow

open Workflow.Graph (CompileFailure stepsFrom)

/-- A node gives the variable that its step is to bind as something other than a text, and its kind
does not fix another one. -/
structure Node.Misnames (node : Node) : Prop where
  free : node.kind.fixedOutput? = none
  given : (Value.field node.fields "outputVar").isTruthy = true
  other : ∀ name, Value.field node.fields "outputVar" ≠ .str name

/-- The failure to make a step of a node that names no text. -/
def Graph.CompileFailure.misnamed : CompileFailure := .invalid [⟨.text, [.field "output_var"]⟩]

/-- A graph passes all checks, but one of its nodes names no text. -/
def Graph.Misnamed (graph : Graph) : Prop :=
  graph.Valid ∧ graph.Acyclic ∧ ∃ node ∈ graph.nodes, node.Misnames

/-- A node has an output variable unless it names one that is no text. -/
theorem Node.output_cases (node : Node) :
    (node.Misnames ∧ node.output = .error .misnamed) ∨
      (¬ node.Misnames ∧ ∃ name, node.output = .ok name) := by
  cases fixed : node.kind.fixedOutput? with
  | some name =>
      right
      refine ⟨?_, name, by simp only [output, fixed]⟩
      intro misnames
      cases fixed.symm.trans misnames.free
  | none =>
      cases given : (Value.field node.fields "outputVar").isTruthy with
      | false =>
          right
          refine ⟨?_, node.kind.defaultOutput, by simp [output, fixed, Value.orElse, given]⟩
          intro misnames
          cases given.symm.trans misnames.given
      | true =>
          cases named : Value.field node.fields "outputVar" with
          | str name =>
              right
              rw [named] at given
              refine ⟨fun misnames => misnames.other name named, name, ?_⟩
              simp only [output, fixed, Value.orElse, named, given, if_true]
          | _ =>
              left
              rw [named] at given
              refine ⟨⟨fixed, named ▸ given, ?_⟩, ?_⟩
              · intro name same
                cases named.symm.trans same
              · simp only [output, fixed, Value.orElse, named, given, if_true]
                rfl

namespace Graph

/-- Nodes become steps unless one of them names no text. -/
theorem stepsFrom_cases (declared : List String) (position : Nat) (nodes : List Node) :
    ((∃ node ∈ nodes, node.Misnames) ∧ stepsFrom declared position nodes = .error .misnamed) ∨
      ((∀ node ∈ nodes, ¬ node.Misnames) ∧
        ∃ steps, stepsFrom declared position nodes = .ok steps) := by
  induction nodes generalizing position with
  | nil =>
      right
      exact ⟨by simp, [], rfl⟩
  | cons node rest ih =>
      rcases node.output_cases with ⟨misnames, failed⟩ | ⟨names, output, output_eq⟩
      · left
        exact ⟨⟨node, List.mem_cons_self, misnames⟩, by simp [stepsFrom, Node.toStep, failed]⟩
      · rcases ih (position + 1) with ⟨⟨other, member, misnames⟩, failed⟩ | ⟨all, steps, built⟩
        · left
          refine ⟨⟨other, List.mem_cons_of_mem _ member, misnames⟩, ?_⟩
          simp [stepsFrom, Node.toStep, output_eq, failed, pure, Except.pure]
        · right
          refine ⟨?_, _, by simp [stepsFrom, Node.toStep, output_eq, built, pure, Except.pure]; rfl⟩
          intro other member
          rcases List.mem_cons.1 member with rfl | later
          · exact names
          · exact all other later

variable {graph : Graph}

theorem firstProblem?_eq_none_iff : graph.firstProblem? = none ↔ graph.Valid := by
  rw [← validate_eq_ok_iff, validate]
  cases graph.firstProblem? <;> simp

theorem compile_eq_of_problem {problem : CompileError}
    (found : graph.firstProblem? = some problem) :
    graph.compile = .error (.rejected problem) := by
  simp only [compile, validate, found]
  rfl

theorem compile_eq_of_unordered (valid : graph.Valid) {problem : CompileError}
    (refused : graph.releaseOrder = .error problem) :
    graph.compile = .error (.rejected problem) := by
  simp only [compile, (validate_eq_ok_iff graph).2 valid, refused]
  rfl

/-- When nothing is wrong with a graph, its nodes become steps in their order of release. -/
theorem compile_eq_stepsFrom (valid : graph.Valid) {order : List Node}
    (ordered : graph.releaseOrder = .ok order) :
    graph.compile = stepsFrom graph.declaredVariables 1 order := by
  simp only [compile, (validate_eq_ok_iff graph).2 valid, ordered]
  rfl

/-- The three ways in which compiling a graph ends. -/
theorem compile_cases (graph : Graph) :
    (¬ (graph.Valid ∧ graph.Acyclic) ∧ ∃ error, graph.compile = .error (.rejected error)) ∨
      (graph.Misnamed ∧ graph.compile = .error .misnamed) ∨
      ((∀ node ∈ graph.nodes, ¬ node.Misnames) ∧ ∃ steps, graph.compile = .ok steps) := by
  cases found : graph.firstProblem? with
  | some problem =>
      left
      refine ⟨?_, problem, compile_eq_of_problem found⟩
      rintro ⟨valid, -⟩
      cases found.symm.trans (firstProblem?_eq_none_iff.2 valid)
  | none =>
      have valid := firstProblem?_eq_none_iff.1 found
      cases ordered : graph.releaseOrder with
      | error problem =>
          left
          refine ⟨?_, problem, compile_eq_of_unordered valid ordered⟩
          rintro ⟨-, acyclic⟩
          have complete := (length_releasedIds_eq_iff valid).2 acyclic
          cases ordered.symm.trans ((releaseOrder_eq_ok_iff _).2 ⟨complete, rfl⟩)
      | ok order =>
          have topological := releaseOrder_isTopologicalOrder valid ordered
          have acyclic : graph.Acyclic :=
            (length_releasedIds_eq_iff valid).1 ((releaseOrder_eq_ok_iff order).1 ordered).1
          right
          rw [compile_eq_stepsFrom valid ordered]
          simp only [Misnamed, ← topological.perm.mem_iff]
          rcases stepsFrom_cases graph.declaredVariables 1 order with ⟨misnames, failed⟩ | built
          · left
            exact ⟨⟨valid, acyclic, misnames⟩, failed⟩
          · right
            exact built

/-- A graph misses its compiled form without being rejected exactly if it is misnamed. -/
theorem compile_eq_misnamed_iff : graph.compile = .error .misnamed ↔ graph.Misnamed := by
  rcases graph.compile_cases with ⟨refused, error, failed⟩ | ⟨misnamed, failed⟩ |
    ⟨named, steps, compiled⟩
  · refine iff_of_false ?_ (fun misnamed => refused ⟨misnamed.1, misnamed.2.1⟩)
    intro missing
    cases failed.symm.trans missing
  · exact iff_of_true failed misnamed
  · refine iff_of_false ?_ ?_
    · intro missing
      cases compiled.symm.trans missing
    · rintro ⟨-, -, node, member, misnames⟩
      exact named node member misnames

end Graph

end Workflow
