import Workflow.Proofs.Engine.LogStream
import Workflow.Proofs.Value.Nesting

/-!
# The log streams of many runs

Runs share one broadcaster, and sockets come and go between them.  As long as every run has an id of
its own, the engine and the broadcaster agree about what happened in each of them.
-/

namespace Workflow

/-- A run that came to its end, and the sockets that watched its id when it began, one for each
registration. -/
structure WatchedRun where
  run : Run
  watchers : List SocketId

namespace WatchedRun

/-- The entries of the result of a run. -/
def entries (watched : WatchedRun) : List Entry := (watched.run.result.map (·.steps)).getD []

/-- The frames that a run is told by: those of its log, and then that of its status. -/
def frames (watched : WatchedRun) : List Value :=
  Broadcaster.framesOf (Entry.stream watched.entries) ++
    [Broadcaster.statusFrame watched.run.id watched.run.status.name]

/-- The frames of a run that a socket is pushed, each as often as the socket is registered. -/
def pushedTo (socket : SocketId) (watched : WatchedRun) : List Value :=
  watched.frames.flatMap (List.replicate (watched.watchers.count socket))

end WatchedRun

namespace Engine

/-- The sockets that watch an id. -/
def watchersOf (engine : Engine) (id : String) : List SocketId :=
  (engine.scene.sink.hub?.getD {}).watchersOf id

/-- The engines in which runs have come to their ends, each under an id of its own, while sockets
came and went. -/
inductive Broadcasts (start : Engine) : List WatchedRun → Engine → Prop where
  | start : Broadcasts start [] start
  | watch {ended : List WatchedRun} {engine : Engine} (reached : Broadcasts start ended engine)
      (id : String) (socket : SocketId) :
      Broadcasts start ended (engine.withHub (·.add id socket))
  | leave {ended : List WatchedRun} {engine : Engine} (reached : Broadcasts start ended engine)
      (id : String) (socket : SocketId) :
      Broadcasts start ended (engine.withHub (·.remove id socket))
  | runSteps {ended : List WatchedRun} {engine after : Engine}
      (reached : Broadcasts start ended engine)
      (fresh : ∀ watched ∈ ended, watched.run.id ≠ engine.drawId.1) {steps : List Step}
      {input headers : Value} {graphId : Option String} {run : Run}
      (returned : engine.runSteps steps input headers graphId = (.ok run, after)) :
      Broadcasts start (ended ++ [⟨run, engine.watchersOf engine.drawId.1⟩]) after
  | runGraph {ended : List WatchedRun} {engine after : Engine}
      (reached : Broadcasts start ended engine)
      (fresh : ∀ watched ∈ ended, watched.run.id ≠ engine.drawId.1) {graphId : String}
      {input headers : Value} {run : Run}
      (returned : engine.runGraph graphId input headers = (.ok run, after)) :
      Broadcasts start (ended ++ [⟨run, engine.watchersOf engine.drawId.1⟩]) after

/-- An engine that has come from `start`, whose broadcaster has come from `first`, agrees with its
broadcaster about runs. -/
structure Agrees (start engine : Engine) (first hub : Broadcaster) (ended : List WatchedRun) :
    Prop where
  registry_eq : engine.registry = start.registry
  runs_eq : engine.runs = ended.map fun watched => (watched.run.id, watched.run)
  nodup : (ended.map (·.run.id)).Nodup
  sink_eq : engine.scene.sink = .broadcaster hub
  finished : ∀ watched ∈ ended, ∃ result, watched.run.result = some result ∧
    watched.run.status = if result.ok then .completed else .failed
  told : ∀ watched ∈ ended, hub.entriesOf watched.run.id = Entry.stream watched.entries
  untold : ∀ id, id ∉ ended.map (·.run.id) → hub.entriesOf id = []
  total_eq : hub.totalEntries = 2 * engine.totalEntries
  serves : ∀ socket, (∀ number, first.succeeds socket number = true) →
    hub.Serves socket (fun id => (hub.watchersOf id).count socket)
      (first.received socket ++ ended.flatMap (WatchedRun.pushedTo socket))

variable {start engine after : Engine} {first hub : Broadcaster} {ended : List WatchedRun}

/-- What is done to the sockets changes nothing else. -/
theorem Agrees.withHub (agrees : Agrees start engine first hub ended)
    {act : Broadcaster → Broadcaster} (entries_eq : (act hub).entries = hub.entries)
    (serves : ∀ socket counts frames, hub.Serves socket counts frames →
      (act hub).Serves socket (fun id => ((act hub).watchersOf id).count socket) frames) :
    Agrees start (engine.withHub act) first (act hub) ended := by
  have engine_eq : engine.withHub act =
      { engine with scene := { engine.scene with sink := .broadcaster (act hub) } } := by
    simp only [Engine.withHub, agrees.sink_eq]
  have entriesOf_eq (id : String) : (act hub).entriesOf id = hub.entriesOf id := by
    simp only [Broadcaster.entriesOf, entries_eq]
  rw [engine_eq]
  refine ⟨agrees.registry_eq, agrees.runs_eq, agrees.nodup, rfl, agrees.finished, ?_, ?_, ?_, ?_⟩
  · intro watched member
    rw [entriesOf_eq, agrees.told watched member]
  · intro id absent
    rw [entriesOf_eq, agrees.untold id absent]
  · rw [Broadcaster.totalEntries, entries_eq]
    exact agrees.total_eq
  · intro socket reliable
    exact serves socket _ _ (agrees.serves socket reliable)

theorem totalEntries_of_runs_eq {id : String} {run : Run}
    (runs_eq : after.runs = engine.runs ++ [(id, run)]) :
    after.totalEntries =
      engine.totalEntries + ((run.result.map (·.steps)).getD []).length := by
  unfold totalEntries
  rw [runs_eq]
  induction engine.runs with
  | nil => cases result_eq : run.result <;> simp [result_eq]
  | cons kept rest ih =>
      rw [List.cons_append, List.foldr_cons, List.foldr_cons, ih, Nat.add_assoc]

/-- A run that ends under an id of its own and is told to the broadcaster keeps the agreement. -/
theorem Agrees.concat (agrees : Agrees start engine first hub ended) {run : Run} {result : Result}
    (unused : run.id ∉ ended.map (·.run.id)) (result_eq : run.result = some result)
    (status_eq : run.status = if result.ok then .completed else .failed)
    (registry_eq : after.registry = engine.registry)
    (runs_eq : after.runs = engine.runs ++ [(run.id, run)])
    (sink_eq : after.scene.sink =
      .broadcaster (hub.tell run.id (Entry.stream result.steps) run.status.name)) :
    Agrees start after first (hub.tell run.id (Entry.stream result.steps) run.status.name)
      (ended ++ [⟨run, hub.watchersOf run.id⟩]) := by
  have entries_eq : (run.result.map (·.steps)).getD [] = result.steps := by
    rw [result_eq]
    rfl
  constructor
  · exact registry_eq.trans agrees.registry_eq
  · rw [runs_eq, agrees.runs_eq, List.map_append]
    rfl
  · rw [List.map_append, List.map_singleton]
    exact List.nodup_append.2 ⟨agrees.nodup, by simp, by
      rintro id member _ here rfl
      exact unused (List.mem_singleton.1 here ▸ member)⟩
  · exact sink_eq
  · intro watched member
    rcases List.mem_append.1 member with before | here
    · exact agrees.finished watched before
    · obtain rfl := List.mem_singleton.1 here
      exact ⟨result, result_eq, status_eq⟩
  · intro watched member
    rw [Broadcaster.entriesOf_tell]
    rcases List.mem_append.1 member with before | here
    · have other : run.id ≠ watched.run.id := by
        intro same
        exact unused (same ▸ List.mem_map_of_mem before)
      rw [if_neg other, agrees.told watched before]
    · obtain rfl := List.mem_singleton.1 here
      rw [if_pos rfl, agrees.untold run.id unused, List.nil_append, WatchedRun.entries, entries_eq]
  · intro id absent
    simp only [List.map_append, List.map_singleton, List.mem_append, List.mem_singleton,
      not_or] at absent
    rw [Broadcaster.entriesOf_tell, if_neg (Ne.symm absent.2), agrees.untold id absent.1]
  · rw [Broadcaster.totalEntries_tell, agrees.total_eq, Entry.length_stream,
      totalEntries_of_runs_eq runs_eq, entries_eq, Nat.mul_add]
  · intro socket reliable
    have told := (agrees.serves socket reliable).tell run.id (Entry.stream result.steps)
      run.status.name
    have pushed : WatchedRun.pushedTo socket ⟨run, hub.watchersOf run.id⟩ =
        (Broadcaster.framesOf (Entry.stream result.steps) ++
          [Broadcaster.statusFrame run.id run.status.name]).flatMap
            (List.replicate ((hub.watchersOf run.id).count socket)) := by
      simp only [WatchedRun.pushedTo, WatchedRun.frames, WatchedRun.entries, entries_eq]
    refine ⟨told.nodup, told.reliable, fun _ => rfl, ?_⟩
    rw [told.received_eq, ← pushed, ended.flatMap_append, List.flatMap_singleton, List.append_assoc]

/-- A run leaves the engine and its broadcaster in agreement. -/
theorem Agrees.runSteps (agrees : Agrees start engine first hub ended)
    (leaves : start.registry.LeavesInput)
    (fresh : ∀ watched ∈ ended, watched.run.id ≠ engine.drawId.1) {steps : List Step}
    {input headers : Value} {graphId : Option String} {run : Run}
    (returned : engine.runSteps steps input headers graphId = (.ok run, after)) :
    ∃ last, Agrees start after first last
      (ended ++ [⟨run, engine.watchersOf engine.drawId.1⟩]) := by
  have unused : engine.drawId.1 ∉ ended.map (·.run.id) := by
    intro member
    obtain ⟨watched, member, same⟩ := List.mem_map.1 member
    exact fresh watched member same
  have untaken : engine.drawId.1 ∉ engine.runs.map (·.1) := by
    rw [agrees.runs_eq]
    simpa using unused
  obtain ⟨result, id_eq, result_eq, status_eq, registry_eq, runs_eq, sink_eq⟩ :=
    runSteps_streams (agrees.registry_eq ▸ leaves) agrees.sink_eq untaken returned
  have watchers_eq : engine.watchersOf engine.drawId.1 = hub.watchersOf run.id := by
    rw [watchersOf, agrees.sink_eq, id_eq]
    rfl
  rw [← id_eq] at unused
  rw [watchers_eq]
  exact ⟨_, agrees.concat unused result_eq status_eq registry_eq runs_eq sink_eq⟩

/-- Running a graph that comes to its end is running its steps. -/
theorem runSteps_of_runGraph {graphId : String} {input headers : Value} {run : Run}
    (returned : engine.runGraph graphId input headers = (.ok run, after)) :
    ∃ steps, engine.runSteps steps input headers (some graphId) = (.ok run, after) := by
  unfold runGraph at returned
  split at returned
  · cases returned
  · rename_i stored known
    exact ⟨stored.steps, returned⟩

/-- An engine and its broadcaster agree about all runs that have come to their ends. -/
theorem Broadcasts.agrees (history : Broadcasts start ended engine)
    (leaves : start.registry.LeavesInput) (noRuns : start.runs = [])
    (sink_eq : start.scene.sink = .broadcaster first) (noEntries : first.entries = [])
    (noWatchers : first.watchers = []) : ∃ hub, Agrees start engine first hub ended := by
  induction history with
  | start =>
      refine ⟨first, rfl, noRuns, .nil, sink_eq, by simp, by simp, ?_, ?_, ?_⟩
      · intro id _
        rw [Broadcaster.entriesOf, noEntries, Broadcaster.under_nil]
      · rw [Broadcaster.totalEntries, noEntries, totalEntries, noRuns]
        rfl
      · intro socket reliable
        exact ⟨by simp [noWatchers], reliable, fun _ => rfl, by simp⟩
  | watch reached id socket ih =>
      obtain ⟨hub, agrees⟩ := ih
      exact ⟨_, agrees.withHub rfl fun _ _ _ serves => serves.add id socket⟩
  | leave reached id socket ih =>
      obtain ⟨hub, agrees⟩ := ih
      exact ⟨_, agrees.withHub rfl fun _ _ _ serves => serves.remove id socket⟩
  | runSteps reached fresh returned ih =>
      obtain ⟨hub, agrees⟩ := ih
      exact agrees.runSteps leaves fresh returned
  | runGraph reached fresh returned ih =>
      obtain ⟨hub, agrees⟩ := ih
      obtain ⟨steps, ran⟩ := runSteps_of_runGraph returned
      exact agrees.runSteps leaves fresh ran

theorem Agrees.run?_eq (agrees : Agrees start engine first hub ended) {watched : WatchedRun}
    (member : watched ∈ ended) : engine.run? watched.run.id = some watched.run := by
  rw [run?, agrees.runs_eq]
  apply keyed_eq_some_of_mem
  · simpa [Function.comp_def] using agrees.nodup
  · exact List.mem_map.2 ⟨watched, member, rfl⟩

/-- The log that the broadcaster keeps of a run tells the beginning and then the end of each step of
its result.  A socket to which no push fails is pushed the entries of the log that can be written,
in order, and then the status, as often as it was registered when the run began.  The broadcaster
keeps twice as many entries as the results have. -/
theorem log_agrees_with_results (start engine : Engine) (first : Broadcaster)
    (ended : List WatchedRun) (leaves : start.registry.LeavesInput) (noRuns : start.runs = [])
    (sink_eq : start.scene.sink = .broadcaster first) (noEntries : first.entries = [])
    (noWatchers : first.watchers = []) (history : Broadcasts start ended engine) :
    ∃ hub, engine.scene.sink = .broadcaster hub ∧
      (∀ watched ∈ ended, ∃ result, watched.run.result = some result ∧
        watched.run.status = (if result.ok then .completed else .failed) ∧
        engine.run? watched.run.id = some watched.run ∧
        (hub.entriesOf watched.run.id).length = 2 * result.steps.length ∧
        ∀ i entry, result.steps[i]? = some entry →
          (∃ opening, (hub.entriesOf watched.run.id)[2 * i]? = some opening ∧
            opening.Opens entry) ∧
          (hub.entriesOf watched.run.id)[2 * i + 1]? = some entry) ∧
      (∀ socket, (∀ number, first.succeeds socket number = true) →
        hub.received socket = first.received socket ++ ended.flatMap fun watched =>
          (Broadcaster.framesOf (hub.entriesOf watched.run.id) ++
            [Broadcaster.statusFrame watched.run.id watched.run.status.name]).flatMap
              (List.replicate (watched.watchers.count socket))) ∧
      hub.totalEntries = 2 * engine.totalEntries := by
  obtain ⟨hub, agrees⟩ := history.agrees leaves noRuns sink_eq noEntries noWatchers
  refine ⟨hub, agrees.sink_eq, ?_, ?_, agrees.total_eq⟩
  · intro watched member
    obtain ⟨result, result_eq, status_eq⟩ := agrees.finished watched member
    have log_eq : hub.entriesOf watched.run.id = Entry.stream result.steps := by
      rw [agrees.told watched member, WatchedRun.entries, result_eq]
      rfl
    refine ⟨result, result_eq, status_eq, agrees.run?_eq member, ?_, ?_⟩
    · rw [log_eq, Entry.length_stream]
    · intro i entry found
      obtain ⟨openingAt, entryAt⟩ := Entry.getElem?_stream result.steps i
      rw [log_eq, openingAt, entryAt, found]
      exact ⟨⟨entry.opening, rfl, entry.opens_opening⟩, rfl⟩
  · intro socket reliable
    rw [(agrees.serves socket reliable).received_eq]
    refine congrArg _ (List.flatMap_congr ?_)
    intro watched member
    rw [agrees.told watched member, WatchedRun.pushedTo, WatchedRun.frames]

/-! ## One watched run -/

/-- An engine whose broadcaster has not been told of anything. -/
def silentEngine : Engine := { scene := { sink := .broadcaster {} } }

/-- That engine once a socket watches the id of the first run. -/
def watchedEngine : Engine := silentEngine.withHub (·.add (Identifier.grouped 1) 0)

/-- A step of an unknown kind, with one field. -/
def unknownStep (value : Value) : Step := ⟨"step1", "teleport", [("to", value)], "there"⟩

theorem watchersOf_watchedEngine : watchedEngine.watchersOf watchedEngine.drawId.1 = [0] := by
  with_unfolding_all rfl

/-- The first run of a step of an unknown kind ends with one entry. -/
theorem exists_runSteps_unknownStep (value : Value) :
    ∃ run after,
      watchedEngine.runSteps [unknownStep value] (.obj []) .null none = (.ok run, after) ∧
      (∃ result, run.result = some result ∧
        result.steps.map Entry.fields = [([("to", value)] : Object)]) ∧
      Broadcasts silentEngine [⟨run, [0]⟩] after := by
  obtain ⟨run, after, returned⟩ : ∃ run after,
      watchedEngine.runSteps [unknownStep value] (.obj []) .null none = (.ok run, after) :=
    ⟨_, _, by with_unfolding_all rfl⟩
  have shown : ((watchedEngine.runSteps [unknownStep value] (.obj []) .null none).1.toOption.bind
      (·.result)).map (·.steps.map Entry.fields) = some [([("to", value)] : Object)] := by
    with_unfolding_all rfl
  rw [returned] at shown
  have history : Broadcasts silentEngine
      ([] ++ [⟨run, watchedEngine.watchersOf watchedEngine.drawId.1⟩]) after :=
    .runSteps (.watch .start (Identifier.grouped 1) 0) (by simp) returned
  rw [watchersOf_watchedEngine] at history
  exact ⟨run, after, returned, Option.map_eq_some_iff.1 shown, history⟩

/-- A socket that watches a run of one step is pushed both entries of its log and its status. -/
theorem log_agrees_with_results_unknownKind :
    ∃ run after hub,
      watchedEngine.runSteps [unknownStep .null] (.obj []) .null none = (.ok run, after) ∧
      after.scene.sink = .broadcaster hub ∧ (hub.entriesOf run.id).length = 2 ∧
      hub.received 0 = Broadcaster.framesOf (hub.entriesOf run.id) ++
        [Broadcaster.statusFrame run.id run.status.name] ∧
      hub.totalEntries = 2 * after.totalEntries := by
  obtain ⟨run, after, returned, ⟨result, result_eq, fields_eq⟩, history⟩ :=
    exists_runSteps_unknownStep .null
  obtain ⟨hub, sink_eq, logs, received, total⟩ :=
    log_agrees_with_results silentEngine after {} _ Registry.standard_leavesInput rfl rfl rfl rfl
      history
  obtain ⟨other, other_eq, -, -, length_eq, -⟩ := logs ⟨run, [0]⟩ (by simp)
  obtain rfl : other = result := Option.some.inj (other_eq.symm.trans result_eq)
  have one : other.steps.length = 1 := by simpa using congrArg List.length fields_eq
  refine ⟨run, after, hub, returned, sink_eq, by rw [length_eq, one], ?_, total⟩
  rw [received 0 fun _ => rfl, List.flatMap_singleton]
  exact List.flatMap_singleton' _

/-- Not every entry of a run is pushed to the sockets that watch it. -/
theorem received_not_always_whole_log :
    ¬ ∀ (start engine : Engine) (first hub : Broadcaster) (ended : List WatchedRun),
      start.registry = .standard → start.runs = [] → start.scene.sink = .broadcaster first →
      first.entries = [] → first.watchers = [] → Broadcasts start ended engine →
      engine.scene.sink = .broadcaster hub →
      ∀ socket, (∀ number, first.succeeds socket number = true) →
        hub.received socket = first.received socket ++ ended.flatMap fun watched =>
          ((hub.entriesOf watched.run.id).map
              (fun entry => Value.obj (("type", .str "log") :: entry.toObject)) ++
            [Broadcaster.statusFrame watched.run.id watched.run.status.name]).flatMap
              (List.replicate (watched.watchers.count socket)) := by
  intro whole
  obtain ⟨run, after, returned, ⟨result, result_eq, fields_eq⟩, history⟩ :=
    exists_runSteps_unknownStep (nested 300)
  obtain ⟨hub, agrees⟩ := history.agrees Registry.standard_leavesInput rfl rfl rfl rfl
  have pushed := (agrees.serves 0 fun _ => rfl).received_eq
  have claimed := whole silentEngine after {} hub _ rfl rfl rfl rfl rfl history agrees.sink_eq 0
    fun _ => rfl
  have log_eq : hub.entriesOf run.id = Entry.stream result.steps := by
    rw [agrees.told ⟨run, [0]⟩ (by simp), WatchedRun.entries, result_eq]
    rfl
  obtain ⟨entry, steps_eq, entry_eq⟩ : ∃ entry, result.steps = [entry] ∧
      entry.fields = ([("to", nested 300)] : Object) :=
    List.map_eq_singleton_iff.1 fields_eq
  have high : Object.fits entry.fields = false := by
    rw [entry_eq]
    simp [Object.fits, Value.fieldsHeight, height_nested, Value.maxHeight]
  have untold : entry.fits = false := by simp [Entry.fits, high]
  have opening_untold : entry.opening.fits = false := by simp [Entry.fits, Entry.opening, high]
  have lengths := congrArg List.length (pushed.symm.trans claimed)
  simp [WatchedRun.pushedTo, WatchedRun.frames, WatchedRun.entries, result_eq, log_eq, steps_eq,
    Entry.stream, Broadcaster.framesOf, untold, opening_untold] at lengths

end Engine

end Workflow
