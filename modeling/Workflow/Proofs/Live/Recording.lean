import Workflow.Proofs.Engine.Operation
import Workflow.Proofs.Live.Task

/-!
# What a broadcaster is told

An engine records an entry with an error report if, and only if, the entry tells of a failure, and a
duration that it records is a number.  Once a broadcaster has been told by an engine only, whatever
operations, runs in turns and sockets there were, all that it keeps is such entries.
-/

namespace Workflow

/-- An entry as an engine makes it. -/
structure Entry.IsMade (entry : Entry) : Prop where
  duration : ∀ duration ∈ entry.duration, duration.isFinite = true
  error : match entry.phase with
    | .error => ∃ report : Report, entry.error = some report.toObject
    | _ => entry.error = none

theorem Entry.IsMade.exists_report {entry : Entry} (made : entry.IsMade)
    (failed : entry.phase = .error) : ∃ report : Report, entry.error = some report.toObject := by
  have reported := made.error
  rwa [failed] at reported

theorem Entry.IsMade.error_eq_none {entry : Entry} (made : entry.IsMade)
    (fine : entry.phase ≠ .error) : entry.error = none := by
  have reported := made.error
  split at reported
  · rename_i failed
    exact absurd failed fine
  · exact reported

theorem Entry.isMade_bare {entry : Entry} : entry.bare.IsMade ↔ entry.IsMade :=
  ⟨fun ⟨duration, error⟩ => ⟨duration, error⟩, fun ⟨duration, error⟩ => ⟨duration, error⟩⟩

/-- All entries that a broadcaster keeps were made by an engine. -/
def Broadcaster.IsMade (hub : Broadcaster) : Prop :=
  ∀ id, ∀ entry ∈ hub.entriesOf id, entry.IsMade

namespace Broadcaster

variable {hub shown : Broadcaster}

theorem IsMade.of_entries_eq_nil (silent : hub.entries = []) : hub.IsMade := by
  intro id entry member
  rw [entriesOf, silent] at member
  cases member

theorem IsMade.of_entries_eq (made : hub.IsMade) (entries_eq : shown.entries = hub.entries) :
    shown.IsMade := by
  intro id entry member
  rw [entriesOf, entries_eq] at member
  exact made id entry member

theorem IsMade.amends (made : hub.IsMade) (amends : shown.Amends hub) : shown.IsMade := by
  intro id entry member
  have among := List.mem_map_of_mem (f := Entry.bare) member
  rw [amends.entries_eq] at among
  obtain ⟨other, kept, bare_eq⟩ := List.mem_map.1 among
  rw [← Entry.isMade_bare, ← bare_eq, Entry.isMade_bare]
  exact made id other kept

theorem IsMade.keep (made : hub.IsMade) (id : String) {entry : Entry} (entry_made : entry.IsMade) :
    (hub.keep id entry).IsMade := by
  intro wanted other member
  rw [entriesOf, Broadcaster.keep, under_appendUnder] at member
  split at member
  · rcases List.mem_append.1 member with old | new
    · exact made wanted other old
    · rw [List.mem_singleton.1 new]
      exact entry_made
  · exact made wanted other member

end Broadcaster

/-- The trace goes to a broadcaster that keeps only what an engine made. -/
def Scene.Records (scene : Scene) : Prop := ∃ hub, scene.sink = .broadcaster hub ∧ hub.IsMade

namespace Scene.Records

variable {scene : Scene}

theorem of_sink_eq {other : Scene} (records : scene.Records) (sink_eq : other.sink = scene.sink) :
    other.Records := by
  obtain ⟨hub, hub_eq, made⟩ := records
  exact ⟨hub, sink_eq.trans hub_eq, made⟩

theorem record (records : scene.Records) (id : String) {entry : Entry} (made : entry.IsMade) :
    (scene.record id entry).Records := by
  obtain ⟨hub, hub_eq, hub_made⟩ := records
  refine ⟨(hub.record id entry).2, ?_, ?_⟩
  · rw [Scene.record, hub_eq]
    rfl
  · exact (hub_made.keep id made).of_entries_eq (Broadcaster.entries_record hub id entry)

theorem finish (records : scene.Records) (id status : String) :
    (scene.finish id status).Records := by
  obtain ⟨hub, hub_eq, made⟩ := records
  refine ⟨hub.finish id status, ?_, made.of_entries_eq (Broadcaster.entries_broadcast hub id _)⟩
  rw [Scene.finish, hub_eq]
  rfl

theorem amend (records : scene.Records) (world : World) (request : Request) (progress : Progress)
    (writes : Object) :
    Scene.Records ⟨world, Execution.amendSink request progress writes scene.sink⟩ := by
  obtain ⟨hub, hub_eq, made⟩ := records
  obtain ⟨shown, shown_eq, amends⟩ := Execution.exists_amendSink request progress writes hub
  exact ⟨shown, by rw [hub_eq, shown_eq], made.amends amends⟩

end Scene.Records

theorem Progress.isMade_entry (progress : Progress) (index : Nat) (step : Step) (now : Moment) :
    (progress.entry index step .started now).IsMade :=
  ⟨nofun, rfl⟩

namespace Execution

variable {scene : Scene}

theorem isMade_closing (index : Nat) (step : Step) (progress : Progress) (now : Moment)
    (reply : Reply) : (closing index step progress now reply).1.IsMade := by
  have elapsed : ∀ duration ∈ some elapsed, duration.isFinite = true := by
    rintro duration ⟨⟩
    rfl
  unfold closing
  dsimp only
  split
  · exact ⟨elapsed, rfl⟩
  · rename_i failure _
    exact ⟨elapsed, failure.report, rfl⟩

theorem records_runStep (records : scene.Records) (registry : Registry Handler) (request : Request)
    (index : Nat) (step : Step) (progress : Progress) :
    (runStep registry request index step progress scene).2.Records := by
  rw [runStep_eq]
  let reply := reply registry request step progress.environment scene.world
  have opened := records.record request.executionId (progress.isMade_entry index step scene.world.now)
  exact (opened.amend reply.world request (progress.write reply.writes) reply.writes).record
    request.executionId (isMade_closing index step progress scene.world.now reply)

theorem records_runFrom (records : scene.Records) (registry : Registry Handler) (request : Request)
    (index : Nat) (steps : List Step) (progress : Progress) :
    (runFrom registry request index steps progress scene).2.Records := by
  induction steps generalizing index progress scene with
  | nil => exact records
  | cons step rest ih =>
      have stepped := records_runStep records registry request index step progress
      rw [runFrom]
      split
      · rename_i outcome
        rw [outcome] at stepped
        exact ih stepped _ _
      · rename_i outcome
        rwa [outcome] at stepped

end Execution

namespace Engine

variable {engine : Engine}

theorem records_drawId (records : engine.scene.Records) : engine.drawId.2.scene.Records :=
  records.of_sink_eq rfl

theorem records_executeAs (records : engine.scene.Records) (steps : List Step)
    (input headers : Value) (executionId : String) :
    (engine.executeAs steps input headers executionId).2.scene.Records := by
  unfold executeAs
  split
  · exact records
  · exact records
  · exact Execution.records_runFrom records _ _ _ _ _

theorem records_execute (records : engine.scene.Records) (steps : List Step) (input headers : Value)
    (executionId : Option String) :
    (engine.execute steps input headers executionId).2.scene.Records := by
  unfold execute
  split
  · split
    · exact records_executeAs (records_drawId records) steps input headers _
    · exact records_executeAs records steps input headers _
  · exact records_executeAs (records_drawId records) steps input headers _

theorem records_runSteps (records : engine.scene.Records) (steps : List Step) (input headers : Value)
    (graphId : Option String) :
    (engine.runSteps steps input headers graphId).2.scene.Records := by
  have begun : (engine.drawId.2.keepRun (Run.begin engine.drawId.1 graphId
      engine.drawId.2.scene.world.now)).scene.Records := records_drawId records
  have executed := records_executeAs begun steps input headers engine.drawId.1
  unfold runSteps
  dsimp only
  split
  · rename_i outcome
    rwa [outcome] at executed
  · rename_i result after outcome
    rw [outcome] at executed
    exact Scene.Records.finish executed _ _

/-- An operation leaves only made entries in the trace. -/
theorem records_perform (records : engine.scene.Records) (operation : Operation) :
    (engine.perform operation).2.scene.Records := by
  cases operation with
  | createGraph graph =>
      obtain ⟨graphs, created⟩ := engine.exists_createGraph graph
      rw [perform, created]
      exact records
  | publish graphId name =>
      obtain ⟨publications, published⟩ := engine.exists_publish graphId name
      rw [perform, published]
      exact records
  | execute steps input headers executionId =>
      exact records_execute records steps input headers executionId
  | runSteps steps input headers graphId => exact records_runSteps records steps input headers graphId
  | runGraph id input headers =>
      rw [perform]
      cases known : engine.graph? id with
      | none =>
          rw [runGraph, known]
          exact records
      | some stored =>
          rw [runGraph_eq known]
          exact records_runSteps records stored.steps input headers (some id)
  | register kind handler => exact records
  | onWorld happening => exact records.of_sink_eq rfl

theorem records_withHub (records : engine.scene.Records) {act : Broadcaster → Broadcaster}
    (entries_eq : ∀ hub, (act hub).entries = hub.entries) :
    (engine.withHub act).scene.Records := by
  obtain ⟨hub, hub_eq, made⟩ := records
  exact ⟨act hub, by rw [withHub_eq hub_eq], made.of_entries_eq (entries_eq hub)⟩

end Engine

namespace Live

variable {engine : Engine}

theorem Task.records_record (records : engine.scene.Records) (task : Task) {entry : Entry}
    (made : entry.IsMade) (stage : Task.Stage) :
    (task.record engine entry stage).2.scene.Records := by
  have kept : (engine.withHub (·.keep task.id entry)).scene.Records := by
    obtain ⟨hub, hub_eq, hub_made⟩ := records
    exact ⟨hub.keep task.id entry, by rw [Engine.withHub_eq hub_eq], hub_made.keep task.id made⟩
  unfold record
  dsimp only
  split <;> exact kept

/-- A turn of a run leaves only made entries in the trace. -/
theorem Task.records_turn (records : engine.scene.Records) (task : Task) :
    (task.turn engine).2.scene.Records := by
  unfold turn
  split
  · unfold proceed
    split
    · dsimp only
      split <;> exact records
    · exact records
    · exact records_record records _ (Progress.isMade_entry _ _ _ _) _
    · rename_i run request index step rest progress _
      exact records_record (records.amend _ request _ _) _ (Execution.isMade_closing _ _ _ _ _) _
    · dsimp only
      split <;> exact records
    · exact records
  · exact Engine.records_withHub records fun hub => Broadcaster.entries_push hub _ _ _

/-- An engine, once operations, turns of runs, and sockets have come and gone. -/
inductive LeadsTo (start : Engine) : Engine → Prop where
  | start : LeadsTo start start
  | perform {engine : Engine} (led : LeadsTo start engine) (operation : Engine.Operation) :
      LeadsTo start (engine.perform operation).2
  | turn {engine : Engine} (led : LeadsTo start engine) (task : Task) :
      LeadsTo start (task.turn engine).2
  | join {engine : Engine} (led : LeadsTo start engine) (id : String) (socket : SocketId) :
      LeadsTo start (engine.withHub (·.add id socket))
  | leave {engine : Engine} (led : LeadsTo start engine) (id : String) (socket : SocketId) :
      LeadsTo start (engine.withHub (·.remove id socket))

/-- All entries in a trace that an engine led to were made by it. -/
theorem LeadsTo.records {start : Engine} (led : LeadsTo start engine)
    (begun : start.scene.Records) : engine.scene.Records := by
  induction led with
  | start => exact begun
  | perform led operation ih => exact Engine.records_perform ih operation
  | turn led task ih => exact Task.records_turn ih task
  | join led id socket ih => exact Engine.records_withHub ih fun _ => rfl
  | leave led id socket ih => exact Engine.records_withHub ih fun _ => rfl

end Live

end Workflow
