import Workflow.Proofs.Engine.Ending

/-!
# Marks of a trace

Whatever handlers do, an entry once made keeps its position, its step and its phase.  These marks
run through the steps in order, and only the last of them can be that of a failure.
-/

namespace Workflow

/-- What an entry keeps whatever happens after it. -/
structure Mark where
  index : Int
  stepId : String
  phase : Phase

/-- The mark of an entry. -/
def Entry.mark (entry : Entry) : Mark := ⟨entry.index, entry.stepId, entry.phase⟩

/-- The marks of the entries made so far. -/
def Progress.marks (progress : Progress) : List Mark := progress.entries.map Entry.mark

namespace Progress

/-- Showing a change of the object bound to `input` keeps the marks. -/
theorem marks_amend (progress : Progress) : progress.amend.marks = progress.marks := by
  apply List.ext_getElem
  · simp [marks, amend]
  · intro i amended before
    simp only [marks, amend, List.getElem_map, List.getElem_mapIdx]
    split <;> rfl

theorem marks_write (progress : Progress) (writes : Object) :
    (progress.write writes).marks = progress.marks := by
  unfold write
  split
  · rfl
  · exact marks_amend _

theorem marks_bind (progress : Progress) (output : String) (value : Value) (entry : Entry) :
    (progress.bind output value entry).marks = progress.marks ++ [entry.mark] :=
  List.map_append

end Progress

namespace Execution

/-- Marks run through steps from a position on, and all but the last are those of finished steps. -/
def MarksInOrder (index : Nat) (steps : List Step) (marks : List Mark) : Prop :=
  ∀ (i : Nat) (mark : Mark), marks[i]? = some mark →
    ∃ step, steps[i]? = some step ∧ mark.index = (index + i : Nat) ∧ mark.stepId = step.id ∧
      (i + 1 < marks.length → mark.phase = .finished)

theorem marksInOrder_nil (index : Nat) (steps : List Step) : MarksInOrder index steps [] := by
  intro i mark found
  simp at found

theorem marksInOrder_single (index : Nat) (step : Step) (rest : List Step) (phase : Phase) :
    MarksInOrder index (step :: rest) [⟨index, step.id, phase⟩] := by
  intro i mark found
  cases i with
  | zero =>
      obtain rfl : (⟨index, step.id, phase⟩ : Mark) = mark := by simpa using found
      exact ⟨step, rfl, rfl, rfl, fun more => by simp at more⟩
  | succ i => simp at found

theorem MarksInOrder.cons {index : Nat} {rest : List Step} {marks : List Mark}
    (ordered : MarksInOrder (index + 1) rest marks) (step : Step) :
    MarksInOrder index (step :: rest) (⟨index, step.id, .finished⟩ :: marks) := by
  intro i mark found
  cases i with
  | zero =>
      obtain rfl : (⟨index, step.id, .finished⟩ : Mark) = mark := by simpa using found
      exact ⟨step, rfl, rfl, rfl, fun _ => rfl⟩
  | succ i =>
      obtain ⟨other, stepAt, index_eq, id_eq, finished⟩ := ordered i mark (by simpa using found)
      refine ⟨other, by simpa using stepAt, ?_, id_eq, ?_⟩
      · rw [index_eq]
        omega
      · intro more
        exact finished (by simpa using more)

variable (registry : Registry Handler) (request : Request)

/-- A step adds one mark: that it finished, or that it failed. -/
theorem marks_runStep (index : Nat) (step : Step) (progress : Progress) (scene : Scene) :
    match (runStep registry request index step progress scene).1 with
    | .ok after => after.marks = progress.marks ++ [⟨index, step.id, .finished⟩]
    | .error (after, _) => after.marks = progress.marks ++ [⟨index, step.id, .error⟩] := by
  cases outcome : (reply registry request step progress.environment scene.world).result with
  | ok value =>
      simp only [runStep, Scene.record, outcome, Progress.marks_bind, Progress.marks_write]
      rfl
  | error failure =>
      have written := Progress.marks_write progress
        (reply registry request step progress.environment scene.world).writes
      simp only [Progress.marks] at written
      simp only [runStep, Scene.record, outcome, Progress.marks, List.map_append, written]
      rfl

/-- The marks that a run adds run through its steps. -/
theorem marks_runFrom (index : Nat) (steps : List Step) (progress : Progress) (scene : Scene) :
    ∃ marks, (runFrom registry request index steps progress scene).1.1.marks =
        progress.marks ++ marks ∧ MarksInOrder index steps marks := by
  induction steps generalizing index progress scene with
  | nil => exact ⟨[], (List.append_nil _).symm, marksInOrder_nil index []⟩
  | cons step rest ih =>
      have stepped := marks_runStep registry request index step progress scene
      rw [runFrom]
      split
      · rename_i next nextScene ran
        rw [ran] at stepped
        obtain ⟨marks, marks_eq, ordered⟩ := ih (index + 1) next nextScene
        refine ⟨⟨index, step.id, .finished⟩ :: marks, ?_, ordered.cons step⟩
        rw [marks_eq, stepped, List.append_assoc, List.singleton_append]
      · rename_i last report lastScene ran
        rw [ran] at stepped
        exact ⟨[⟨index, step.id, .error⟩], stepped, marksInOrder_single index step rest .error⟩

end Execution

/-! ## Results -/

/-- The entry of a result at a position is about the step at that position, and the steps before it
are finished. -/
theorem Engine.entry_of_execute {engine after : Engine} {steps : List Step} {input headers : Value}
    {executionId : Option String} {result : Result}
    (returned : engine.execute steps input headers executionId = (.ok result, after))
    {i : Nat} {entry : Entry} (found : result.steps[i]? = some entry) :
    ∃ step, steps[i]? = some step ∧ entry.index = i ∧ entry.stepId = step.id ∧
      ∀ j < i, ∃ earlier, result.steps[j]? = some earlier ∧ earlier.phase = .finished := by
  obtain ⟨sent, bound, progress, stop, scene, -, -, run_eq, ended, rfl⟩ :=
    execute_eq_ok_iff.1 returned
  obtain ⟨marks, marks_eq, ordered⟩ := Execution.marks_runFrom engine.registry
    (engine.request executionId sent) 0 steps (Execution.start bound)
    (engine.identify executionId).2.scene
  rw [run_eq] at marks_eq
  have marks_eq : result.steps.map Entry.mark = marks := by
    rw [(Result.eq_of_ofEnding ended).2]
    exact marks_eq
  have inside := (List.getElem?_eq_some_iff.1 found).1
  have marks_at : ∀ (j : Nat) (other : Entry), result.steps[j]? = some other →
      marks[j]? = some other.mark := by
    intro j other otherAt
    rw [← marks_eq, List.getElem?_map, otherAt, Option.map_some]
  obtain ⟨step, stepAt, index_eq, id_eq, -⟩ := ordered i entry.mark (marks_at i entry found)
  refine ⟨step, stepAt, by simpa [Entry.mark] using index_eq, id_eq, ?_⟩
  intro j before
  have earlierAt := List.getElem?_eq_getElem (Nat.lt_trans before inside)
  obtain ⟨-, -, -, -, finished⟩ := ordered j _ (marks_at j _ earlierAt)
  refine ⟨_, earlierAt, finished ?_⟩
  rw [← marks_eq, List.length_map]
  omega

end Workflow
