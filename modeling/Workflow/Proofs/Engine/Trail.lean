import Workflow.Engine.Execution
import Workflow.Proofs.Handler.Registry
import Workflow.Proofs.Outcome

/-!
# The trail of an execution

When no handler sets fields in the object bound to `input`, an execution is a left fold over its
steps that stops at the first failure.  The state of the fold is the environment with the world; the
trail of the execution is the list of entries that it adds, one for each step that was called.
-/

namespace Workflow

/-- An entry is about a step at a position. -/
structure Entry.Records (entry : Entry) (index : Nat) (step : Step) : Prop where
  index_eq : entry.index = index
  stepId_eq : entry.stepId = step.id
  kind_eq : entry.kind = step.kind
  fields_eq : entry.fields = step.fields

namespace Execution

variable {registry : Registry Handler} {request : Request}

/-- The reply to a step leaves the object bound to `input` alone. -/
theorem writes_reply (leaves : registry.LeavesInput) (step : Step) (environment : Object)
    (world : World) : (reply registry request step environment world).writes = [] := by
  unfold reply
  split
  · rename_i handler found
    exact leaves step.kind handler found step.fields environment request world
  · rfl

/-- A step of a built-in kind is replied to by the handler of that kind. -/
theorem reply_standard {step : Step} {kind : Kind} (same : kind.name = step.kind)
    (environment : Object) (request : Request) (world : World) :
    reply .standard request step environment world =
      kind.handler step.fields environment request world := by
  rw [reply, ← same, Registry.standard_find_name]

/-! ## The fold -/

/-- Call the handler of a step and bind its value, or stop at its failure. -/
def advance (registry : Registry Handler) (request : Request) (state : Object × World)
    (step : Step) : Except (Failure × World) (Object × World) :=
  let reply := reply registry request step state.1 state.2
  match reply.result with
  | .ok value => .ok (Object.set state.1 step.output value, reply.world)
  | .error failure => .error (failure, reply.world)

theorem advance_of_ok {step : Step} {environment : Object} {world : World} {value : Value}
    (ok : (reply registry request step environment world).result = .ok value) :
    advance registry request (environment, world) step =
      .ok (Object.set environment step.output value,
        (reply registry request step environment world).world) := by
  simp only [advance, ok]

theorem advance_of_error {step : Step} {environment : Object} {world : World} {failure : Failure}
    (failed : (reply registry request step environment world).result = .error failure) :
    advance registry request (environment, world) step =
      .error (failure, (reply registry request step environment world).world) := by
  simp only [advance, failed]

/-- An advance binds the value that the handler replied. -/
theorem advance_eq_ok_iff {step : Step} {environment : Object} {world : World}
    {state : Object × World} :
    advance registry request (environment, world) step = .ok state ↔
      ∃ value, (reply registry request step environment world).result = .ok value ∧
        state = (Object.set environment step.output value,
          (reply registry request step environment world).world) := by
  cases outcome : (reply registry request step environment world).result with
  | ok value =>
      rw [advance_of_ok outcome, Except.ok.injEq]
      constructor
      · rintro rfl
        exact ⟨value, rfl, rfl⟩
      · rintro ⟨_, ⟨⟩, rfl⟩
        rfl
  | error failure =>
      rw [advance_of_error outcome]
      constructor
      · nofun
      · rintro ⟨value, impossible, -⟩
        cases impossible

/-- An advance stops with the failure that the handler replied. -/
theorem result_of_advance_error {step : Step} {environment : Object} {world there : World}
    {failure : Failure}
    (stopped : advance registry request (environment, world) step = .error (failure, there)) :
    (reply registry request step environment world).result = .error failure := by
  cases outcome : (reply registry request step environment world).result with
  | ok value =>
      rw [advance_of_ok outcome] at stopped
      cases stopped
  | error cause =>
      rw [advance_of_error outcome] at stopped
      rw [(Prod.mk.inj (Except.error.inj stopped)).1]

/-- Bind the outputs of entries to the variables of their steps, one after the other. -/
def bindOutputs (environment : Object) (bound : List (Step × Entry)) : Object :=
  bound.foldl (fun bindings pair => Object.set bindings pair.1.output pair.2.output) environment

/-! ## The trail -/

/-- The entry of a finished step. -/
def finishedEntry (index : Nat) (step : Step) (environment : Object) (now : Moment)
    (value : Value) : Entry where
  index := index
  stepId := step.id
  kind := step.kind
  phase := .finished
  fields := step.fields
  environment := environment
  output := value
  duration := some elapsed
  time := { moment := now }

/-- The entry of a failed step. -/
def failedEntry (index : Nat) (step : Step) (environment : Object) (now : Moment)
    (report : Report) : Entry where
  index := index
  stepId := step.id
  kind := step.kind
  phase := .error
  fields := step.fields
  environment := environment
  error := some report.toObject
  duration := some elapsed
  time := { moment := now }

/-- Steps from a position on, run in an environment and a world, add entries and end in an
environment and a world, either after all steps or at a failure. -/
inductive Trail (registry : Registry Handler) (request : Request) :
    Nat → List Step → Object → World → List Entry → Object → World → Option Stop → Prop where
  | done {index : Nat} {environment : Object} {world : World} :
      Trail registry request index [] environment world [] environment world none
  | finish {index : Nat} {step : Step} {steps : List Step} {environment : Object} {world : World}
      {value : Value} {entries : List Entry} {last : Object} {lastWorld : World}
      {stop : Option Stop}
      (ok : (reply registry request step environment world).result = .ok value)
      (rest : Trail registry request (index + 1) steps (Object.set environment step.output value)
        (reply registry request step environment world).world entries last lastWorld stop) :
      Trail registry request index (step :: steps) environment world
        (finishedEntry index step environment world.now value :: entries) last lastWorld stop
  | fail {index : Nat} {step : Step} {steps : List Step} {environment : Object} {world : World}
      {failure : Failure}
      (failed : (reply registry request step environment world).result = .error failure) :
      Trail registry request index (step :: steps) environment world
        [failedEntry index step environment world.now failure.report] environment
        (reply registry request step environment world).world
        (some ⟨index, step.id, failure.report⟩)

/-- The sink after both entries of a step. -/
def recordBoth (request : Request) (index : Nat) (step : Step) (progress : Progress)
    (scene : Scene) (ending : Entry) : Sink :=
  ((scene.sink.record request.executionId
    (progress.entry index step .started scene.world.now)).2.record request.executionId ending).2

/-- A step that finishes binds its value and adds its entry. -/
theorem runStep_of_ok (leaves : registry.LeavesInput) {step : Step} {progress : Progress}
    {scene : Scene} {value : Value} (index : Nat)
    (ok : (reply registry request step progress.environment scene.world).result = .ok value) :
    runStep registry request index step progress scene =
      (.ok (progress.bind step.output value
          (finishedEntry index step progress.environment scene.world.now value)),
        { world := (reply registry request step progress.environment scene.world).world
          sink := recordBoth request index step progress scene
            (finishedEntry index step progress.environment scene.world.now value) }) := by
  have quiet : (reply registry request step progress.environment scene.world).writes = [] :=
    writes_reply leaves step progress.environment scene.world
  simp only [runStep, Scene.record, ok, quiet, Progress.write, List.isEmpty_nil, if_true, amendSink]
  rfl

/-- A step that fails adds its entry and changes nothing else. -/
theorem runStep_of_error (leaves : registry.LeavesInput) {step : Step} {progress : Progress}
    {scene : Scene} {failure : Failure} (index : Nat)
    (failed : (reply registry request step progress.environment scene.world).result =
      .error failure) :
    runStep registry request index step progress scene =
      (.error ({ progress with entries := progress.entries ++
          [failedEntry index step progress.environment scene.world.now failure.report] },
          failure.report),
        { world := (reply registry request step progress.environment scene.world).world
          sink := recordBoth request index step progress scene
            (failedEntry index step progress.environment scene.world.now failure.report) }) := by
  have quiet : (reply registry request step progress.environment scene.world).writes = [] :=
    writes_reply leaves step progress.environment scene.world
  simp only [runStep, Scene.record, failed, quiet, Progress.write, List.isEmpty_nil, if_true,
    amendSink]
  rfl

/-- Every run of steps has a trail. -/
theorem exists_trail_runFrom (leaves : registry.LeavesInput) (request : Request) (index : Nat)
    (steps : List Step) (progress : Progress) (scene : Scene) :
    ∃ (after : Progress) (stop : Option Stop) (lastScene : Scene) (entries : List Entry),
      runFrom registry request index steps progress scene = ((after, stop), lastScene) ∧
      after.entries = progress.entries ++ entries ∧
      Trail registry request index steps progress.environment scene.world entries
        after.environment lastScene.world stop := by
  induction steps generalizing index progress scene with
  | nil => exact ⟨progress, none, scene, [], rfl, by simp, .done⟩
  | cons step rest ih =>
      cases outcome : (reply registry request step progress.environment scene.world).result with
      | ok value =>
          obtain ⟨after, stop, lastScene, entries, run_eq, entries_eq, trail⟩ :=
            ih (index + 1)
              (progress.bind step.output value
                (finishedEntry index step progress.environment scene.world.now value))
              { world := (reply registry request step progress.environment scene.world).world
                sink := recordBoth request index step progress scene
                  (finishedEntry index step progress.environment scene.world.now value) }
          refine ⟨after, stop, lastScene, _, ?_, ?_, .finish outcome trail⟩
          · rw [runFrom, runStep_of_ok leaves index outcome]
            exact run_eq
          · rw [entries_eq]
            simp [Progress.bind]
      | error failure =>
          let failed := failedEntry index step progress.environment scene.world.now failure.report
          refine ⟨{ progress with entries := progress.entries ++ [failed] },
            some ⟨index, step.id, failure.report⟩,
            { world := (reply registry request step progress.environment scene.world).world
              sink := recordBoth request index step progress scene failed },
            [failed], ?_, rfl, .fail outcome⟩
          rw [runFrom, runStep_of_error leaves index outcome]

/-- The entries of a run from its start are those of a trail. -/
theorem trail_of_runFrom (leaves : registry.LeavesInput) {steps : List Step} {input : Object}
    {scene last : Scene} {progress : Progress} {stop : Option Stop}
    (ran : runFrom registry request 0 steps (start input) scene = ((progress, stop), last)) :
    Trail registry request 0 steps [("input", .obj input)] scene.world progress.entries
      progress.environment last.world stop := by
  obtain ⟨after, ending, lastScene, entries, run_eq, entries_eq, trail⟩ :=
    exists_trail_runFrom leaves request 0 steps (start input) scene
  obtain ⟨⟨rfl, rfl⟩, rfl⟩ : (after = progress ∧ ending = stop) ∧ lastScene = last := by
    simpa using run_eq.symm.trans ran
  obtain rfl : after.entries = entries := entries_eq
  exact trail

/-! ## Reading a trail -/

variable {index : Nat} {steps : List Step} {environment last : Object} {world lastWorld : World}
  {entries : List Entry} {stop : Option Stop}

/-- Each entry of a trail is about its step, shows the environment of the fold before that step,
which binds the outputs so far, and ends as the reply did. -/
theorem Trail.entry_at
    (trail : Trail registry request index steps environment world entries last lastWorld stop)
    {i : Nat} {entry : Entry} (found : entries[i]? = some entry) :
    ∃ step here, steps[i]? = some step ∧ entry.Records (index + i) step ∧
      (steps.take i).foldlM (advance registry request) (environment, world) =
        .ok (entry.environment, here) ∧
      entry.environment = bindOutputs environment ((steps.zip entries).take i) ∧
      match (reply registry request step entry.environment here).result with
      | .ok value => entry.phase = .finished ∧ entry.output = value
      | .error failure => entry.phase = .error ∧ entry.error = some failure.report.toObject := by
  induction trail generalizing i with
  | done => simp at found
  | @finish index step steps environment world value entries last lastWorld stop ok rest ih =>
      cases i with
      | zero =>
          obtain rfl : finishedEntry index step environment world.now value = entry := by
            simpa using found
          refine ⟨step, world, rfl, ⟨rfl, rfl, rfl, rfl⟩, rfl, rfl, ?_⟩
          simp only [finishedEntry, ok, and_self]
      | succ i =>
          obtain ⟨other, here, stepAt, records, folded, bound, ends⟩ := ih (by simpa using found)
          refine ⟨other, here, by simpa using stepAt, ?_, ?_, bound, ends⟩
          · rwa [Nat.add_right_comm, Nat.add_assoc] at records
          · rw [List.take_succ_cons, List.foldlM_cons, advance_of_ok ok, Outcome.ok_bind]
            exact folded
  | @fail index step steps environment world failure failed =>
      cases i with
      | zero =>
          obtain rfl : failedEntry index step environment world.now failure.report = entry := by
            simpa using found
          refine ⟨step, world, rfl, ⟨rfl, rfl, rfl, rfl⟩, rfl, rfl, ?_⟩
          simp only [failedEntry, failed, and_self]
      | succ i => simp at found

/-- Between two entries of a trail stand the steps from the first to the second. -/
theorem Trail.foldlM_between
    (trail : Trail registry request index steps environment world entries last lastWorld stop)
    {i j : Nat} {entry later : Entry} (entryAt : entries[i]? = some entry)
    (laterAt : entries[j]? = some later) (before : i ≤ j) :
    ∃ step here there, steps[i]? = some step ∧
      (steps.take i).foldlM (advance registry request) (environment, world) =
        .ok (entry.environment, here) ∧
      ((steps.take j).drop i).foldlM (advance registry request) (entry.environment, here) =
        .ok (later.environment, there) ∧
      (entry.phase = .finished → ∃ value,
        (reply registry request step entry.environment here).result = .ok value) := by
  obtain ⟨step, here, stepAt, -, folded, -, ends⟩ := trail.entry_at entryAt
  obtain ⟨-, there, -, -, foldedLater, -⟩ := trail.entry_at laterAt
  refine ⟨step, here, there, stepAt, folded, ?_, ?_⟩
  · have front : (steps.take j).take i = steps.take i := by
      rw [List.take_take, Nat.min_eq_left before]
    rwa [← List.take_append_drop i (steps.take j), List.foldlM_append, front, folded,
      Outcome.ok_bind] at foldedLater
  · intro finished
    cases outcome : (reply registry request step entry.environment here).result with
    | ok value => exact ⟨value, rfl⟩
    | error failure =>
        rw [outcome, finished] at ends
        cases ends.1

/-- A trail that does not stop finishes every step, and the fold has its last state. -/
theorem Trail.of_not_stopped
    (trail : Trail registry request index steps environment world entries last lastWorld none) :
    steps.foldlM (advance registry request) (environment, world) = .ok (last, lastWorld) ∧
      entries.length = steps.length ∧ (∀ entry ∈ entries, entry.phase = .finished) ∧
      last = bindOutputs environment (steps.zip entries) := by
  obtain ⟨ending, ending_eq⟩ : ∃ ending : Option Stop, ending = none := ⟨none, rfl⟩
  rw [← ending_eq] at trail
  induction trail with
  | done => exact ⟨rfl, rfl, by simp, rfl⟩
  | finish ok rest ih =>
      obtain ⟨folded, length_eq, finished, bound⟩ := ih ending_eq
      refine ⟨?_, by simp [length_eq], ?_, bound⟩
      · rw [List.foldlM_cons, advance_of_ok ok, Outcome.ok_bind]
        exact folded
      · intro entry member
        rcases List.mem_cons.1 member with rfl | later
        · rfl
        · exact finished entry later
  | fail failed => cases ending_eq

/-- A trail stops at the first step that fails: the fold stops there, the last entry is that of the
failure, and the environment is the one before it. -/
theorem Trail.of_stopped {stop : Stop}
    (trail : Trail registry request index steps environment world entries last lastWorld
      (some stop)) :
    ∃ k step here failure, steps[k]? = some step ∧
      (steps.take k).foldlM (advance registry request) (environment, world) = .ok (last, here) ∧
      advance registry request (last, here) step = .error (failure, lastWorld) ∧
      stop = ⟨index + k, step.id, failure.report⟩ ∧ entries.length = k + 1 ∧
      (∀ i < k, ∃ entry, entries[i]? = some entry ∧ entry.phase = .finished) ∧
      entries[k]? = some (failedEntry (index + k) step last here.now failure.report) := by
  obtain ⟨ending, ending_eq⟩ : ∃ ending, ending = some stop := ⟨_, rfl⟩
  rw [← ending_eq] at trail
  induction trail with
  | done => cases ending_eq
  | @finish index step steps environment world value entries last lastWorld ending ok rest ih =>
      obtain ⟨k, other, here, failure, stepAt, folded, failed, stop_eq, length_eq, finished, lastAt⟩ :=
        ih ending_eq
      have shift : index + 1 + k = index + (k + 1) := by omega
      rw [shift] at stop_eq lastAt
      refine ⟨k + 1, other, here, failure, by simpa using stepAt, ?_, failed, stop_eq,
        by simp [length_eq], ?_, by simpa using lastAt⟩
      · rw [List.take_succ_cons, List.foldlM_cons, advance_of_ok ok, Outcome.ok_bind]
        exact folded
      · intro i before
        cases i with
        | zero => exact ⟨_, rfl, rfl⟩
        | succ i => simpa using finished i (by omega)
  | @fail index step steps environment world failure failed =>
      refine ⟨0, step, world, failure, rfl, rfl, advance_of_error failed,
        (Option.some.inj ending_eq).symm, rfl, ?_, rfl⟩
      intro i before
      omega

end Execution

end Workflow
