import Workflow.Proofs.Engine.Trail
import Workflow.Proofs.Handler.Input
import Workflow.Proofs.Template.Reference

/-!
# What stays bound

From one step to a later one, a variable that no step binds anew keeps its value, and an object bound
to `input` is extended as long as none but input steps bind it anew.  So what a path leads to at the
first of the two steps is what it leads to at the second.
-/

namespace Workflow

/-- Among some steps, none but those of the input kind bind a variable. -/
def Step.OnlyInputsBind (steps : List Step) (name : String) : Prop :=
  ∀ step ∈ steps, step.output = name → step.kind = Kind.input.name

instance (steps : List Step) (name : String) : Decidable (Step.OnlyInputsBind steps name) :=
  inferInstanceAs (Decidable (∀ step ∈ steps, step.output = name → step.kind = Kind.input.name))

namespace Execution

variable {registry : Registry Handler} {request : Request} {step : Step} {steps : List Step}
  {environment after input : Object} {world there : World}

/-! ## Variables -/

/-- What holds of an environment holds of a later one if every step between the two keeps it. -/
theorem foldlM_advance_keeps (kept : Object → Prop)
    (keeps : ∀ step ∈ steps, ∀ environment world after there, kept environment →
      advance registry request (environment, world) step = .ok (after, there) → kept after)
    (begun : kept environment)
    (folded : steps.foldlM (advance registry request) (environment, world) = .ok (after, there)) :
    kept after := by
  induction steps generalizing environment world with
  | nil =>
      obtain ⟨rfl, rfl⟩ := Prod.mk.inj (Except.ok.inj folded)
      exact begun
  | cons step rest ih =>
      rw [List.foldlM_cons] at folded
      obtain ⟨⟨here, hereWorld⟩, advanced, folded⟩ := Outcome.bind_eq_ok_iff.1 folded
      have held := keeps step List.mem_cons_self environment world here hereWorld begun advanced
      exact ih (fun later member => keeps later (List.mem_cons_of_mem _ member)) held folded

/-- Steps that bind other variables leave a variable as it is. -/
theorem field_foldlM_advance {name : String} (others : ∀ step ∈ steps, step.output ≠ name)
    (folded : steps.foldlM (advance registry request) (environment, world) = .ok (after, there)) :
    Value.field after name = Value.field environment name := by
  apply foldlM_advance_keeps (fun later => Value.field later name = _) ?_ rfl folded
  intro step member here world next there same advanced
  obtain ⟨value, -, state_eq⟩ := advance_eq_ok_iff.1 advanced
  obtain ⟨rfl, -⟩ := Prod.mk.inj state_eq
  have other : step.output ≠ name := others step member
  rw [Value.field_set, if_neg (by simpa using other), same]

/-! ## The input -/

/-- The environment binds an object with single names to `input`. -/
structure HoldsInput (environment input : Object) : Prop where
  field_eq : Value.field environment "input" = .obj input
  single : (Object.identities input).Nodup

/-- An input step fills in its variables. -/
theorem HoldsInput.of_input_step (holds : HoldsInput environment input)
    (kind_eq : step.kind = Kind.input.name) (binds : step.output = "input")
    (advanced : advance .standard request (environment, world) step = .ok (after, there)) :
    HoldsInput after (Handler.withDefaults input (Value.field step.fields "variables")) := by
  obtain ⟨value, replied, state_eq⟩ := advance_eq_ok_iff.1 advanced
  obtain ⟨rfl, -⟩ := Prod.mk.inj state_eq
  rw [reply_standard kind_eq.symm, Kind.handler,
    Handler.collectInput_eq holds.field_eq holds.single] at replied
  obtain rfl := Except.ok.inj replied
  refine ⟨?_, (Handler.extends_withDefaults holds.single _).2⟩
  rw [binds, Value.field_set, if_pos rfl]

/-- A step that binds another variable leaves the input alone. -/
theorem HoldsInput.of_other_step (holds : HoldsInput environment input)
    (other : step.output ≠ "input")
    (advanced : advance .standard request (environment, world) step = .ok (after, there)) :
    HoldsInput after input := by
  obtain ⟨value, -, state_eq⟩ := advance_eq_ok_iff.1 advanced
  obtain ⟨rfl, -⟩ := Prod.mk.inj state_eq
  refine ⟨?_, holds.single⟩
  rw [Value.field_set, if_neg (by simpa using other), holds.field_eq]

/-- A step that binds `input` only if it is an input step extends the object bound to it. -/
theorem HoldsInput.of_advance (holds : HoldsInput environment input)
    (inputs : step.output = "input" → step.kind = Kind.input.name)
    (advanced : advance .standard request (environment, world) step = .ok (after, there)) :
    ∃ more, HoldsInput after more ∧ input.Extends more := by
  by_cases binds : step.output = "input"
  · exact ⟨_, holds.of_input_step (inputs binds) binds advanced,
      (Handler.extends_withDefaults holds.single _).1⟩
  · exact ⟨input, holds.of_other_step binds advanced, .refl input⟩

/-- As long as only input steps bind `input`, the object bound to it is extended. -/
theorem HoldsInput.of_foldlM (holds : HoldsInput environment input)
    (inputs : Step.OnlyInputsBind steps "input")
    (folded : steps.foldlM (advance .standard request) (environment, world) = .ok (after, there)) :
    ∃ more, HoldsInput after more ∧ input.Extends more := by
  apply foldlM_advance_keeps (fun later => ∃ more, HoldsInput later more ∧ input.Extends more) ?_
    ⟨input, holds, .refl input⟩ folded
  rintro step member here world next there ⟨between, held, begun⟩ advanced
  obtain ⟨more, heldAfter, extended⟩ := held.of_advance (inputs step member) advanced
  exact ⟨more, heldAfter, begun.trans extended⟩

/-! ## Paths -/

/-- A path into the object bound to `input` that leads to something leads to the same once that
object is extended. -/
theorem lookup_eq_of_extends {more : Object} {path : String} (holds : HoldsInput environment input)
    (holdsAfter : HoldsInput after more) (extended : input.Extends more)
    (root_eq : Path.root path = "input") (deeper : path ≠ "input")
    (found : Path.lookup environment path ≠ .null) :
    Path.lookup after path = Path.lookup environment path := by
  obtain ⟨rest, segmented⟩ := Path.exists_segments_eq path
  rw [root_eq] at segmented
  have given : path ≠ "" := by
    rintro rfl
    simp [Path.root] at root_eq
  rw [Path.lookup_eq_foldl given segmented, holds.field_eq] at found
  rw [Path.lookup_eq_foldl given segmented, Path.lookup_eq_foldl given segmented, holds.field_eq,
    holdsAfter.field_eq]
  cases rest with
  | nil => exact absurd (Path.eq_root_of_segments segmented) deeper
  | cons first rest =>
      simp only [List.foldl_cons, Path.follow, Value.field] at found ⊢
      cases present : Object.get? input first with
      | none =>
          rw [present, Option.getD_none, Path.foldl_follow_null] at found
          exact absurd rfl found
      | some value => rw [extended _ _ present]

/-- A path that leads to a value that is not missing leads to one later on, and to the same unless it
is that of the whole input.  Between the two, only input steps bind `input`, and if the root of the
path is another variable, no step binds that. -/
theorem lookup_stays {path : String} (holds : HoldsInput environment input)
    (inputs : Step.OnlyInputsBind steps "input")
    (kept : Path.root path ≠ "input" → ∀ step ∈ steps, step.output ≠ Path.root path)
    (folded : steps.foldlM (advance .standard request) (environment, world) = .ok (after, there))
    (found : Handler.isMissing (Path.lookup environment path) = false) :
    Handler.isMissing (Path.lookup after path) = false ∧
      (path ≠ "input" → Path.lookup after path = Path.lookup environment path) := by
  by_cases whole : path = "input"
  · obtain ⟨more, holdsAfter, -⟩ := holds.of_foldlM inputs folded
    have segmented : Path.segments "input" = ["input"] := by decide +kernel
    have lookup_eq : Path.lookup after path = .obj more := by
      rw [whole, Path.lookup_eq_foldl (by decide) segmented, List.foldl_nil, holdsAfter.field_eq]
    rw [lookup_eq]
    exact ⟨rfl, fun deeper => absurd whole deeper⟩
  · suffices same : Path.lookup after path = Path.lookup environment path by
      exact ⟨by rwa [same], fun _ => same⟩
    by_cases root_eq : Path.root path = "input"
    · obtain ⟨more, holdsAfter, extended⟩ := holds.of_foldlM inputs folded
      apply lookup_eq_of_extends holds holdsAfter extended root_eq whole
      intro absent
      rw [absent] at found
      cases found
    · exact Path.lookup_congr_root (field_foldlM_advance (kept root_eq) folded)

end Execution

end Workflow
