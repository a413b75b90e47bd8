import Workflow.Live.Session
import Workflow.Proofs.Engine.Return
import Workflow.Proofs.Live.Task

/-!
# Turns of a run and of a session

A session watches a run.  Both take turns in any order, and in between texts come from the client,
other sockets come and go, and the world moves on.
-/

namespace Workflow.Live

/-- A run, a session that watches it, and the engine of both. -/
structure Watch where
  engine : Engine
  task : Task
  session : Session

/-- What happens next. -/
inductive Turn where
  /-- The run takes a turn. -/
  | run
  /-- The session takes a turn. -/
  | session
  /-- The client sends a text. -/
  | text (text : String)
  /-- A socket begins to watch an execution. -/
  | join (id : String) (socket : SocketId)
  /-- A socket no longer watches an execution. -/
  | leave (id : String) (socket : SocketId)
  /-- Something happens to the world. -/
  | world (happening : World → World)

/-- The sockets that come and go are others. -/
def Turn.Spares (socket : SocketId) : Turn → Prop
  | .join _ other | .leave _ other => socket ≠ other
  | _ => True

namespace Watch

/-- Take a turn. -/
def turn (watch : Watch) : Turn → Watch
  | .run =>
    let (task, engine) := watch.task.turn watch.engine
    { watch with engine, task }
  | .session =>
    let (engine, session) := watch.session.advance watch.engine
    { watch with engine, session }
  | .text text =>
    let (engine, session) := watch.session.receive watch.engine text
    { watch with engine, session }
  | .join id socket => { watch with engine := watch.engine.withHub (·.add id socket) }
  | .leave id socket => { watch with engine := watch.engine.withHub (·.remove id socket) }
  | .world happening =>
    let scene := { watch.engine.scene with world := happening watch.engine.scene.world }
    { watch with engine := { watch.engine with scene } }

/-- Take turns. -/
def turns (watch : Watch) (schedule : List Turn) : Watch := schedule.foldl turn watch

end Watch

/-! ## What a turn of a run does -/

namespace Task

/-- A run is over. -/
def Stage.IsOver : Stage → Prop
  | .done _ _ => True
  | _ => False

theorem not_isOver_running {run : Run} {request : Request} {point : Point} :
    ¬ (Stage.running run request point).IsOver :=
  fun ended => ended

/-- The frame that tells how a run ended, once it came to a result. -/
def ending (task : Task) : List Value :=
  match task.stage with
  | .done run none => [Broadcaster.statusFrame task.id run.status.name]
  | _ => []

/-- The frames that a run has announced. -/
def frames (task : Task) : List Value := Broadcaster.framesOf task.told ++ task.ending

/-- The frames that a socket is still owed. -/
def owedTo (task : Task) (socket : SocketId) : List Value :=
  (task.owed.filter (·.1 = socket)).map (·.2)

/-- What a turn of a run does to the run and to a broadcaster. -/
inductive Moves (task : Task) (hub : Broadcaster) : Task → Broadcaster → Prop where
  | push {socket : SocketId} {frame : Value} {owed : List (SocketId × Value)}
      (owed_eq : task.owed = (socket, frame) :: owed) :
      Moves task hub { task with owed } (hub.push task.id frame socket)
  | record {shown : Broadcaster} {entry : Entry} {stage : Stage} (paid : task.owed = [])
      (amends : shown.Amends hub) (going : ¬ task.stage.IsOver) (goes : ¬ stage.IsOver) :
      Moves task hub
        { task with
          stage
          told := task.told ++ [entry]
          owed := (Broadcaster.framesOf [entry]).flatMap fun frame =>
            (hub.watchersOf task.id).map (·, frame) }
        (shown.keep task.id entry)
  | conclude {run : Run} (paid : task.owed = []) (going : ¬ task.stage.IsOver) :
      Moves task hub
        { task with
          stage := .done run none
          owed := (hub.watchersOf task.id).map
            (·, Broadcaster.statusFrame task.id run.status.name) }
        hub
  | idle {stage : Stage} (paid : task.owed = [])
      (ending_eq : ({ task with stage } : Task).ending = task.ending)
      (stays : task.stage.IsOver → stage = task.stage) :
      Moves task hub { task with stage } hub

/-- An engine and its broadcaster know of a run what it has done. -/
structure Kept (task : Task) (engine : Engine) (hub : Broadcaster) : Prop where
  sink_eq : engine.scene.sink = .broadcaster hub
  entries_eq : (hub.entriesOf task.id).map Entry.bare = task.told.map Entry.bare
  run?_eq : engine.run? task.id = task.stage.run?
  id_eq : ∀ run, task.stage.run? = some run → run.id = task.id
  unbegun : task.stage = .waiting → task.told = []

variable {task there : Task} {engine : Engine} {hub last : Broadcaster}

theorem ending_of_not_isOver (going : ¬ task.stage.IsOver) : task.ending = [] := by
  unfold ending
  split
  · rename_i stage_eq
    rw [stage_eq] at going
    exact absurd trivial going
  · rfl

/-- A run that records an entry makes it known. -/
theorem moves_record {shown : Broadcaster} {entry : Entry} {stage : Stage} (paid : task.owed = [])
    (amends : shown.Amends hub) (going : ¬ task.stage.IsOver) (goes : ¬ stage.IsOver)
    (sink_eq : engine.scene.sink = .broadcaster shown)
    (entries_eq : (hub.entriesOf task.id).map Entry.bare = task.told.map Entry.bare)
    (run?_eq : engine.run? task.id = stage.run?)
    (id_eq : ∀ run, stage.run? = some run → run.id = task.id) (begun : stage ≠ .waiting) :
    ∃ last, task.Moves hub (task.record engine entry stage).1 last ∧
      (task.record engine entry stage).1.Kept (task.record engine entry stage).2 last := by
  have watchers_eq : (engine.withHub (·.keep task.id entry)).watchersOf task.id =
      hub.watchersOf task.id := by
    rw [Engine.withHub_eq sink_eq, Broadcaster.watchersOf, ← amends.watchers_eq]
    rfl
  have record_eq : task.record engine entry stage =
      ({ task with
        stage
        told := task.told ++ [entry]
        owed := (Broadcaster.framesOf [entry]).flatMap fun frame =>
          (hub.watchersOf task.id).map (·, frame) },
        engine.withHub (·.keep task.id entry)) := by
    simp only [record, announce, watchers_eq, Broadcaster.logFrame_eq]
    cases fits : entry.fits <;> simp [Broadcaster.framesOf, fits, paid]
  rw [record_eq]
  refine ⟨shown.keep task.id entry, .record paid amends going goes, ?_⟩
  constructor
  · rw [Engine.withHub_eq sink_eq]
  · have kept_eq : (shown.keep task.id entry).entriesOf task.id =
        shown.entriesOf task.id ++ [entry] := by
      rw [Broadcaster.entriesOf, Broadcaster.keep, Broadcaster.under_appendUnder, if_pos rfl]
      rfl
    rw [kept_eq, List.map_append, List.map_append, amends.entries_eq, entries_eq]
  · rw [Engine.withHub_eq sink_eq]
    exact run?_eq
  · exact id_eq
  · exact fun waiting => absurd waiting begun

/-- A run that goes on to another stage with the same run in the engine is known. -/
theorem Kept.idle (kept : task.Kept engine hub) {stage : Stage} (run_eq : stage.run? = task.stage.run?)
    (begun : stage = .waiting → task.told = []) : ({ task with stage } : Task).Kept engine hub where
  sink_eq := kept.sink_eq
  entries_eq := kept.entries_eq
  run?_eq := kept.run?_eq.trans run_eq.symm
  id_eq run run_eq' := kept.id_eq run (run_eq ▸ run_eq')
  unbegun := begun

/-- A run that is put into the engine is known. -/
theorem Kept.keepRun (kept : task.Kept engine hub) {run : Run} (id_eq : run.id = task.id)
    {stage : Stage} (run_eq : stage.run? = some run) (owed : List (SocketId × Value)) :
    ({ task with stage, owed } : Task).Kept (engine.keepRun run) hub where
  sink_eq := kept.sink_eq
  entries_eq := kept.entries_eq
  run?_eq := by
    rw [run_eq, ← id_eq]
    exact Engine.run?_keepRun engine run
  id_eq other other_eq := by
    rw [run_eq] at other_eq
    rw [← Option.some.inj other_eq, id_eq]
  unbegun := by
    rintro rfl
    cases run_eq

/-- A run that goes on without a word is known. -/
theorem Kept.pass (kept : task.Kept engine hub) (paid : task.owed = [])
    (going : ¬ task.stage.IsOver) {stage : Stage} (silent : ({ task with stage } : Task).ending = [])
    (run_eq : stage.run? = task.stage.run?) (begun : stage ≠ .waiting) :
    ∃ last, task.Moves hub { task with stage } last ∧
      ({ task with stage } : Task).Kept engine last := by
  refine ⟨hub, .idle paid ?_ fun ended => absurd ended going,
    kept.idle run_eq fun waiting => absurd waiting begun⟩
  rw [silent, ending_of_not_isOver going]

/-- A run that begins is known, whatever becomes of its input. -/
theorem Kept.begin (kept : task.Kept engine hub) (paid : task.owed = [])
    (stage_eq : task.stage = .waiting) {stage : Stage}
    (run_eq : stage.run? = some (Run.begin task.id task.graphId engine.scene.world.now))
    (silent : ({ task with stage } : Task).ending = []) :
    ∃ last, task.Moves hub { task with stage } last ∧ ({ task with stage } : Task).Kept
      (engine.keepRun (Run.begin task.id task.graphId engine.scene.world.now)) last := by
  have going : ¬ task.stage.IsOver := by
    rw [stage_eq]
    exact False.elim
  refine ⟨hub, .idle paid ?_ fun ended => absurd ended going, kept.keepRun rfl run_eq task.owed⟩
  rw [silent, ending_of_not_isOver going]

/-- A run that comes to a result announces its status. -/
theorem Kept.conclude (kept : task.Kept engine hub) (paid : task.owed = [])
    (going : ¬ task.stage.IsOver) {run : Run} (id_eq : run.id = task.id) :
    ∃ last,
      task.Moves hub
        (({ task with stage := .done run none } : Task).announce (engine.keepRun run)
          (Broadcaster.statusFrame task.id run.status.name)) last ∧
      (({ task with stage := .done run none } : Task).announce (engine.keepRun run)
        (Broadcaster.statusFrame task.id run.status.name)).Kept (engine.keepRun run) last := by
  have watchers_eq : (engine.keepRun run).watchersOf task.id = hub.watchersOf task.id := by
    rw [Engine.watchersOf, Engine.keepRun, kept.sink_eq]
    rfl
  simp only [announce, watchers_eq]
  exact ⟨hub, .conclude paid going, kept.keepRun id_eq rfl _⟩

/-- Between its beginning and its end, a run goes on from point to point and stays known. -/
theorem Kept.proceed_running (kept : task.Kept engine hub) (paid : task.owed = []) {run : Run}
    {request : Request} {point : Point} (stage_eq : task.stage = .running run request point) :
    ∃ last, task.Moves hub (task.proceed engine).1 last ∧
      (task.proceed engine).1.Kept (task.proceed engine).2 last := by
  have going : ¬ task.stage.IsOver := by
    rw [stage_eq]
    exact not_isOver_running
  have run_eq : some run = task.stage.run? := by
    rw [stage_eq]
    rfl
  have run?_eq : engine.run? task.id = some run := kept.run?_eq.trans run_eq.symm
  have id_eq (other : Run) (other_eq : some run = some other) : other.id = task.id :=
    kept.id_eq other (run_eq.symm.trans other_eq)
  cases point with
  | before index rest progress =>
      cases rest with
      | nil =>
          simp only [proceed, stage_eq]
          exact kept.pass paid going rfl run_eq (by rintro ⟨⟩)
      | cons step rest =>
          simp only [proceed, stage_eq]
          exact moves_record paid (.refl hub) going not_isOver_running kept.sink_eq
            kept.entries_eq run?_eq id_eq (by rintro ⟨⟩)
  | within index step rest progress =>
      -- What the handler writes is shown in the log before the entry is recorded.
      simp only [proceed, stage_eq, call]
      obtain ⟨shown, shown_eq, amends⟩ := Execution.exists_amendSink request
        (progress.write (Execution.reply engine.registry request step progress.environment
          engine.scene.world).writes)
        (Execution.reply engine.registry request step progress.environment
          engine.scene.world).writes hub
      exact moves_record paid amends going not_isOver_running
        (by rw [kept.sink_eq, shown_eq]) kept.entries_eq run?_eq id_eq (by rintro ⟨⟩)
  | past progress stop =>
      simp only [proceed, stage_eq]
      split
      · exact kept.pass paid going rfl run_eq (by rintro ⟨⟩)
      · exact kept.conclude paid going (id_eq run rfl)

/-- A turn of a run does one of these things, and the engine and its broadcaster know of it. -/
theorem Kept.turn (kept : task.Kept engine hub) :
    ∃ last, task.Moves hub (task.turn engine).1 last ∧
      (task.turn engine).1.Kept (task.turn engine).2 last := by
  cases paid : task.owed with
  | cons push owed =>
      obtain ⟨socket, frame⟩ := push
      simp only [Task.turn, paid]
      refine ⟨_, .push paid, ?_⟩
      rw [Engine.withHub_eq kept.sink_eq]
      refine ⟨rfl, ?_, kept.run?_eq, kept.id_eq, kept.unbegun⟩
      rw [Broadcaster.entriesOf, Broadcaster.entries_push]
      exact kept.entries_eq
  | nil =>
      simp only [Task.turn, paid]
      cases stage_eq : task.stage with
      | waiting =>
          simp only [proceed, stage_eq]
          split <;> exact kept.begin paid stage_eq rfl rfl
      | running run request point => exact kept.proceed_running paid stage_eq
      | done run failure =>
          simp only [proceed, stage_eq]
          exact ⟨hub, .idle paid rfl fun _ => rfl, kept⟩

theorem id_record (task : Task) (engine : Engine) (entry : Entry) (stage : Stage) :
    (task.record engine entry stage).1.id = task.id := by
  unfold record
  dsimp only
  split <;> rfl

/-- A run keeps its id. -/
theorem id_turn (task : Task) (engine : Engine) : (task.turn engine).1.id = task.id := by
  unfold Task.turn
  split
  · unfold proceed
    split
    · dsimp only
      split <;> rfl
    · rfl
    · exact id_record _ _ _ _
    · exact id_record _ _ _ _
    · split <;> rfl
    · rfl
  · rfl

/-! ## What a socket is pushed -/

/-- The sockets that are owed a frame are owed it once for each registration. -/
theorem owedTo_announced (sockets : List SocketId) (frame : Value) (socket : SocketId) :
    ((sockets.map (·, frame)).filter (·.1 = socket)).map (·.2) =
      List.replicate (sockets.count socket) frame := by
  induction sockets with
  | nil => rfl
  | cons other rest ih =>
      rw [List.map_cons, List.filter_cons, List.count_cons]
      by_cases same : other = socket
      · simp [same, ih, List.replicate_succ]
      · simp [same, ih]

/-- What a run announces is pushed, or is owed, to a socket as often as the socket is registered. -/
theorem Moves.serves (moves : task.Moves hub there last) {socket : SocketId}
    {counts : String → Nat} {received : List Value} (serves : hub.Serves socket counts received) :
    ∃ received' news, last.Serves socket counts received' ∧
      there.frames = task.frames ++ news ∧
      received' ++ there.owedTo socket =
        received ++ task.owedTo socket ++ news.flatMap (List.replicate (counts task.id)) := by
  cases moves with
  | push owed_eq =>
      rename_i other frame owed
      refine ⟨_, [], serves.push task.id frame other, (List.append_nil _).symm, ?_⟩
      simp only [owedTo, owed_eq, List.filter_cons]
      by_cases same : other = socket
      · simp [same]
      · simp [same]
  | record paid amends going goes =>
      rename_i shown entry stage
      refine ⟨received, Broadcaster.framesOf [entry], (serves.amends amends).keep task.id entry,
        ?_, ?_⟩
      · rw [frames, frames, ending_of_not_isOver going, ending_of_not_isOver goes,
          Broadcaster.framesOf_append, List.append_nil, List.append_nil]
      · rw [owedTo, owedTo, paid]
        simp only [List.filter_flatMap, List.map_flatMap, owedTo_announced, serves.count_eq]
        simp
  | conclude paid going =>
      rename_i run
      refine ⟨received, [Broadcaster.statusFrame task.id run.status.name], serves, ?_, ?_⟩
      · rw [frames, frames, ending_of_not_isOver going, List.append_nil]
        rfl
      · simp only [owedTo, owedTo_announced, serves.count_eq, paid]
        simp
  | idle paid ending_eq stays =>
      refine ⟨received, [], serves, ?_, ?_⟩
      · rw [frames, ending_eq, List.append_nil]
        rfl
      · simp [owedTo]

/-- A run goes on from where it was: it tells and announces more, and nothing once it is over. -/
structure Extends (task base : Task) : Prop where
  id_eq : task.id = base.id
  told : ∃ later, task.told = base.told ++ later
  ended : base.stage.IsOver → task.stage = base.stage ∧ task.told = base.told

theorem Extends.refl (task : Task) : task.Extends task :=
  ⟨rfl, ⟨[], (List.append_nil _).symm⟩, fun _ => ⟨rfl, rfl⟩⟩

theorem Extends.trans {first second third : Task} (later : third.Extends second)
    (earlier : second.Extends first) : third.Extends first where
  id_eq := later.id_eq.trans earlier.id_eq
  told := by
    obtain ⟨more, told_eq⟩ := later.told
    obtain ⟨before, before_eq⟩ := earlier.told
    exact ⟨before ++ more, by rw [told_eq, before_eq, List.append_assoc]⟩
  ended finished := by
    obtain ⟨stage_eq, told_eq⟩ := earlier.ended finished
    obtain ⟨last_stage, last_told⟩ := later.ended (stage_eq ▸ finished)
    exact ⟨last_stage.trans stage_eq, last_told.trans told_eq⟩

theorem Moves.extends (moves : task.Moves hub there last) : there.Extends task := by
  cases moves with
  | push owed_eq => exact ⟨rfl, ⟨[], (List.append_nil _).symm⟩, fun _ => ⟨rfl, rfl⟩⟩
  | record paid amends going goes => exact ⟨rfl, ⟨_, rfl⟩, fun ended => absurd ended going⟩
  | conclude paid going =>
      exact ⟨rfl, ⟨[], (List.append_nil _).symm⟩, fun ended => absurd ended going⟩
  | idle paid ending_eq stays =>
      exact ⟨rfl, ⟨[], (List.append_nil _).symm⟩, fun ended => ⟨stays ended, rfl⟩⟩

/-! ## The entries of a run -/

/-- An entry tells of an earlier event than those that a run is still to record. -/
def Stage.Past : Stage → Entry → Prop
  | .waiting, _ => False
  | .running _ _ (.before index _ _), entry => entry.index < index
  | .running _ _ (.within index _ _ _), entry =>
    entry.index < index ∨ entry.index = index ∧ entry.phase = .started
  | _, _ => True

/-- No two entries of a run tell of the same event of the same step. -/
structure Numbered (task : Task) : Prop where
  nodup : (task.told.map fun entry => (entry.index, entry.phase)).Nodup
  past : ∀ entry ∈ task.told, task.stage.Past entry

theorem Numbered.record (numbered : task.Numbered) {entry : Entry} {stage : Stage}
    (new : ∀ other, task.stage.Past other → other.index = entry.index → other.phase ≠ entry.phase)
    (later : ∀ other, task.stage.Past other → stage.Past other) (past : stage.Past entry) :
    (task.record engine entry stage).1.Numbered := by
  have told_eq : (task.record engine entry stage).1.told = task.told ++ [entry] ∧
      (task.record engine entry stage).1.stage = stage := by
    unfold Task.record
    dsimp only
    split <;> exact ⟨rfl, rfl⟩
  constructor
  · rw [told_eq.1, List.map_append, List.map_singleton]
    refine List.nodup_append.2 ⟨numbered.nodup, by simp, ?_⟩
    intro key member other here
    obtain ⟨recorded, among, rfl⟩ := List.mem_map.1 member
    obtain rfl := List.mem_singleton.1 here
    intro same
    obtain ⟨index_eq, phase_eq⟩ := Prod.mk.inj same
    exact new recorded (numbered.past recorded among) index_eq phase_eq
  · rw [told_eq.1, told_eq.2]
    intro other member
    rcases List.mem_append.1 member with among | here
    · exact later other (numbered.past other among)
    · rw [List.mem_singleton.1 here]
      exact past

/-- A run that goes on to another stage without recording stays numbered. -/
theorem Numbered.idle (numbered : task.Numbered) {stage : Stage}
    (later : ∀ other, task.stage.Past other → stage.Past other) (owed : List (SocketId × Value)) :
    ({ task with stage, owed } : Task).Numbered :=
  ⟨numbered.nodup, fun other member => later other (numbered.past other member)⟩

/-- The entry at the end of a step tells of it, and the run is then past all entries up to that
step. -/
theorem past_after (run : Run) (request : Request) (index : Nat) (step : Step) (rest : List Step)
    (progress : Progress) (now : Moment) (reply : Reply) :
    let closing := Execution.closing index step progress now reply
    closing.1.index = index ∧ closing.1.phase ≠ .started ∧
      ∀ entry : Entry, entry.index ≤ index →
        (Stage.running run request (.after index step rest closing.2)).Past entry := by
  unfold Execution.closing
  cases reply.result with
  | ok value =>
      refine ⟨rfl, by simp [Execution.finishedEntry], ?_⟩
      intro entry within
      change entry.index < ((index + 1 : Nat) : Int)
      omega
  | error failure => exact ⟨rfl, by simp [Execution.failedEntry], fun _ _ => trivial⟩

/-- Between its beginning and its end, a run records of each step its beginning and then its end. -/
theorem Numbered.proceed_running (numbered : task.Numbered) (engine : Engine) {run : Run}
    {request : Request} {point : Point} (stage_eq : task.stage = .running run request point) :
    (task.proceed engine).1.Numbered := by
  cases point with
  | before index rest progress =>
      have past_iff (other : Entry) : task.stage.Past other ↔ other.index < index := by
        rw [stage_eq]
        rfl
      cases rest with
      | nil =>
          simp only [proceed, stage_eq]
          exact numbered.idle (by exact fun _ _ => trivial) _
      | cons step rest =>
          simp only [proceed, stage_eq]
          refine numbered.record ?_ ?_ (.inr ⟨rfl, rfl⟩)
          · intro other past same
            exact absurd same (Int.ne_of_lt ((past_iff other).1 past))
          · intro other past
            exact .inl ((past_iff other).1 past)
  | within index step rest progress =>
      have past_iff (other : Entry) : task.stage.Past other ↔
          other.index < index ∨ other.index = index ∧ other.phase = .started := by
        rw [stage_eq]
        rfl
      simp only [proceed, stage_eq, call]
      obtain ⟨index_eq, phase_ne, after⟩ := past_after run request index step rest progress
        engine.scene.world.now (Execution.reply engine.registry request step
          progress.environment engine.scene.world)
      refine numbered.record ?_ ?_ ?_
      · intro other past same
        rcases (past_iff other).1 past with before | ⟨-, phase_eq⟩
        · rw [same, index_eq] at before
          exact absurd before (Int.lt_irrefl _)
        · rw [phase_eq]
          exact phase_ne.symm
      · intro other past
        apply after
        rcases (past_iff other).1 past with before | ⟨same, -⟩
        · exact Int.le_of_lt before
        · exact Int.le_of_eq same
      · exact after _ (Int.le_of_eq index_eq)
  | past progress stop =>
      simp only [proceed, stage_eq]
      split <;> exact numbered.idle (by exact fun _ _ => trivial) _

theorem Numbered.turn (numbered : task.Numbered) (engine : Engine) :
    (task.turn engine).1.Numbered := by
  cases paid : task.owed with
  | cons push owed =>
      simp only [Task.turn, paid]
      exact ⟨numbered.nodup, numbered.past⟩
  | nil =>
      simp only [Task.turn, paid]
      cases stage_eq : task.stage with
      | waiting =>
          have unbegun (other : Entry) : ¬ task.stage.Past other := by
            rw [stage_eq]
            exact fun past => past
          simp only [proceed, stage_eq]
          split <;> exact numbered.idle (fun other past => absurd past (unbegun other)) _
      | running run request point => exact numbered.proceed_running engine stage_eq
      | done run failure =>
          simp only [proceed, stage_eq]
          exact numbered

end Task

end Workflow.Live
