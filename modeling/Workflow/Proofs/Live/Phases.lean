import Workflow.Proofs.Live.Watch

/-!
# Phases of a watching session

The first turn of a session registers its socket, and its second turn takes note of how many entries
are recorded and begins to replay them.  Each phase has an invariant, which every turn of the run, of
the client and of others preserves; the two turns of the session lead from one phase to the next.
-/

namespace Workflow

/-- A frame carries an entry, with the output that it had when the frame was made. -/
def Entry.IsCarriedBy (entry : Entry) (frame : Value) : Prop :=
  ∃ version : Entry, version.bare = entry.bare ∧ Broadcaster.logFrame version = .ok frame

namespace Live

/-- A frame carries an entry. -/
def isLog : Value → Bool
  | .obj fields =>
    match Value.field fields "type" with
    | .str type => type = "log"
    | _ => false
  | _ => false

theorem isLog_of_isCarriedBy {entry : Entry} {frame : Value} (carried : entry.IsCarriedBy frame) :
    isLog frame = true := by
  obtain ⟨version, -, written⟩ := carried
  rw [Broadcaster.logFrame_eq] at written
  split at written
  · rw [← Except.ok.inj written]
    rfl
  · cases written

/-! ## Replays -/

/-- The session is over. -/
def Session.IsOver (session : Session) : Prop := ∃ fault, session.stage = .over fault

theorem Session.not_isOver {session : Session} {stage : Stage} (stage_eq : session.stage = stage)
    (stays : ∀ fault, stage ≠ .over fault) : ¬ session.IsOver :=
  fun ⟨fault, left⟩ => stays fault (stage_eq.symm.trans left)

/-- How many entries of a run a session has replayed, of those that were recorded when its replay
began.  Its socket was registered when the run stood at `base`. -/
structure Session.HasSent (session : Session) (task base : Task) (snapshot replayed : Nat) :
    Prop where
  replayed_le : replayed ≤ snapshot
  snapshot_le : snapshot ≤ task.told.length
  base_le : base.told.length ≤ snapshot
  logs : List.Forall₂ Entry.IsCarriedBy (task.told.take replayed) (session.sent.filter isLog)

/-- A session that has replayed so many entries is to replay the next, has told the status, or is
over. -/
structure Session.Replayed (session : Session) (task base : Task) (snapshot replayed : Nat) :
    Prop extends session.HasSent task base snapshot replayed where
  stage : match session.stage with
    | .replaying position count => position = replayed ∧ count = snapshot
    | .listening => base.told.length ≤ replayed ∧ base.ending ⊆ session.sent
    | .over _ => True
    | _ => False

variable {task base : Task} {engine : Engine} {hub : Broadcaster} {session : Session}
  {snapshot replayed : Nat}

/-- A run that goes on leaves a replay as it is. -/
theorem Session.Replayed.extends {there : Task}
    (replays : session.Replayed task base snapshot replayed) (goes : there.Extends task) :
    session.Replayed there base snapshot replayed := by
  obtain ⟨later, told_eq⟩ := goes.told
  refine ⟨⟨replays.replayed_le, ?_, replays.base_le, ?_⟩, replays.stage⟩
  · rw [told_eq, List.length_append]
    exact Nat.le_add_right_of_le replays.snapshot_le
  · rw [told_eq, List.take_append_of_le_length
      (Nat.le_trans replays.replayed_le replays.snapshot_le)]
    exact replays.logs

theorem filter_isLog_past {frame : Value} (log : isLog frame = true) (stage : Stage) :
    (session.past frame stage).sent.filter isLog = session.sent.filter isLog ++ [frame] := by
  simp [Session.past, log]

theorem filter_isLog_past_of_not {frame : Value} (other : isLog frame = false) (stage : Stage) :
    (session.past frame stage).sent.filter isLog = session.sent.filter isLog := by
  simp [Session.past, other]

/-- The status that a session tells of a run is the one that the run announced before it was
registered for, if it did. -/
theorem ending_subset (goes : task.Extends base) {run : Option Run}
    (run_eq : run = task.stage.run?) :
    base.ending ⊆ (run.map fun run => Broadcaster.statusFrame task.id run.status.name).toList := by
  unfold Task.ending
  split
  · rename_i ended stage_eq
    have ended : base.stage.IsOver := by
      rw [stage_eq]
      trivial
    rw [run_eq, (goes.ended ended).1, stage_eq, goes.id_eq]
    exact List.Subset.refl _
  · exact List.nil_subset _

theorem Task.Stage.eq_waiting_of_run?_eq_none {stage : Task.Stage} (none_eq : stage.run? = none) :
    stage = .waiting := by
  cases stage with
  | waiting => rfl
  | running run request point => cases none_eq
  | done run failure => cases none_eq

theorem Task.Kept.recorded_eq (kept : task.Kept engine hub) :
    Session.recorded engine task.id = hub.entriesOf task.id := by
  rw [Session.recorded, kept.sink_eq]
  rfl

theorem Task.Kept.length_eq (kept : task.Kept engine hub) :
    (hub.entriesOf task.id).length = task.told.length := by
  simpa using congrArg List.length kept.entries_eq

/-- A session that replays sends the next entry, or the status, or leaves. -/
theorem replayed_replay (kept : task.Kept engine hub) (id_eq : session.executionId = task.id)
    (goes : task.Extends base) (sent : session.HasSent task base snapshot replayed) :
    (∃ fault, session.replay engine replayed snapshot = session.leave engine (some fault)) ∨
    ∃ next replayed', session.replay engine replayed snapshot = (engine, next) ∧ ¬ next.IsOver ∧
      next.executionId = task.id ∧ next.socket = session.socket ∧
      next.Replayed task base snapshot replayed' := by
  unfold Session.replay
  rw [id_eq, kept.recorded_eq]
  cases found : ((hub.entriesOf task.id).take snapshot)[replayed]? with
  | some entry =>
      have inside : replayed < snapshot := by
        have bound := (List.getElem?_eq_some_iff.1 found).1
        rw [List.length_take] at bound
        omega
      rw [List.getElem?_take_of_lt inside] at found
      have bare_eq := congrArg (·[replayed]?) kept.entries_eq
      simp only [List.getElem?_map, found, Option.map_some] at bare_eq
      obtain ⟨told, told_at, told_eq⟩ := Option.map_eq_some_iff.1 bare_eq.symm
      cases written : Broadcaster.logFrame entry with
      | error cause => exact .inl ⟨cause, by simp only [written]⟩
      | ok frame =>
          have carried : told.IsCarriedBy frame := ⟨entry, told_eq.symm, written⟩
          cases worded : frameText frame with
          | error cause => exact .inl ⟨cause, by simp only [written, Session.send, worded]⟩
          | ok text =>
              refine .inr ⟨session.past frame (.replaying (replayed + 1) snapshot), replayed + 1,
                by simp only [written, Session.send_of_text _ _ _ worded], by rintro ⟨_, ⟨⟩⟩, id_eq,
                rfl, ⟨inside, sent.snapshot_le, sent.base_le, ?_⟩, rfl, rfl⟩
              rw [filter_isLog_past (isLog_of_isCarriedBy carried), List.take_add_one, told_at]
              exact List.rel_append sent.logs (.cons carried .nil)
  | none =>
      -- All entries of the snapshot are replayed; the status follows if the engine knows the run.
      have all : replayed = snapshot := by
        rw [List.getElem?_eq_none_iff, List.length_take, kept.length_eq] at found
        have within := sent.replayed_le
        have recorded := sent.snapshot_le
        omega
      subst all
      have told := ending_subset goes kept.run?_eq
      cases known : engine.run? task.id with
      | some run =>
          rw [known] at told
          refine .inr ⟨session.past (Broadcaster.statusFrame task.id run.status.name) .listening,
            replayed, rfl, by rintro ⟨_, ⟨⟩⟩, id_eq, rfl,
            ⟨Nat.le_refl _, sent.snapshot_le, sent.base_le, ?_⟩, sent.base_le, ?_⟩
          · rw [filter_isLog_past_of_not rfl]
            exact sent.logs
          · exact fun frame member => List.mem_append_right _ (told member)
      | none =>
          rw [known] at told
          refine .inr ⟨{ session with stage := .listening }, replayed, by rw [← id_eq],
            by rintro ⟨_, ⟨⟩⟩, id_eq, rfl,
            ⟨Nat.le_refl _, sent.snapshot_le, sent.base_le, sent.logs⟩, sent.base_le, ?_⟩
          exact fun frame member => absurd (told member) List.not_mem_nil

/-! ## Turns -/

/-- Others act: sockets come and go, or the world moves on. -/
def Turn.IsElsewhere : Turn → Prop
  | .run | .session | .text _ => False
  | _ => True

theorem Turn.cases (turn : Turn) :
    turn = .run ∨ turn = .session ∨ (∃ text, turn = .text text) ∨ turn.IsElsewhere := by
  cases turn <;> simp [IsElsewhere]

theorem Task.Kept.withHub (kept : task.Kept engine hub) {act : Broadcaster → Broadcaster}
    (entries_eq : (act hub).entries = hub.entries) :
    task.Kept (engine.withHub act) (act hub) where
  sink_eq := by rw [Engine.withHub_eq kept.sink_eq]
  entries_eq := by
    rw [Broadcaster.entriesOf, entries_eq]
    exact kept.entries_eq
  run?_eq := by
    rw [Engine.withHub_eq kept.sink_eq]
    exact kept.run?_eq
  id_eq := kept.id_eq
  unbegun := kept.unbegun

namespace Watch

/-- The session of a socket watches the run, which the engine and its broadcaster know. -/
structure Known (watch : Watch) (socket : SocketId) (hub : Broadcaster) : Prop where
  kept : watch.task.Kept watch.engine hub
  id_eq : watch.session.executionId = watch.task.id
  socket_eq : watch.session.socket = socket

/-- What a socket is pushed that was registered when the run stood at `base`: every frame that is
announced since then, as long as the session is not over, and none of them twice. -/
structure Served (watch : Watch) (socket : SocketId) (base : Task) (hub : Broadcaster) : Prop where
  goes : watch.task.Extends base
  pushes : ∃ counts received news, hub.Serves socket counts received ∧
    counts watch.task.id ≤ 1 ∧ watch.task.frames = base.frames ++ news ∧
    (received ++ watch.task.owedTo socket).Sublist news ∧
    (¬ watch.session.IsOver →
      counts watch.task.id = 1 ∧ received ++ watch.task.owedTo socket = news)

variable {watch : Watch} {socket : SocketId} {next : Turn}

theorem Known.elsewhere (known : watch.Known socket hub) (spares : next.Spares socket)
    (elsewhere : next.IsElsewhere) :
    ∃ last, (watch.turn next).Known socket last ∧ (watch.turn next).task = watch.task ∧
      (watch.turn next).session = watch.session ∧
      ∀ counts received, hub.Serves socket counts received →
        last.Serves socket counts received := by
  cases next with
  | run => exact elsewhere.elim
  | session => exact elsewhere.elim
  | text text => exact elsewhere.elim
  | join id other =>
      exact ⟨hub.add id other, ⟨known.kept.withHub rfl, known.id_eq, known.socket_eq⟩, rfl, rfl,
        fun _ _ serves => serves.add_other id spares⟩
  | leave id other =>
      exact ⟨hub.remove id other, ⟨known.kept.withHub rfl, known.id_eq, known.socket_eq⟩, rfl,
        rfl, fun _ _ serves => serves.remove_other id spares⟩
  | world happening =>
      have kept := known.kept
      exact ⟨hub, ⟨⟨kept.sink_eq, kept.entries_eq, kept.run?_eq, kept.id_eq, kept.unbegun⟩,
        known.id_eq, known.socket_eq⟩, rfl, rfl, fun _ _ serves => serves⟩

theorem Known.run (known : watch.Known socket hub) :
    ∃ last, (watch.turn .run).Known socket last ∧
      watch.task.Moves hub (watch.turn .run).task last := by
  obtain ⟨last, moves, kept⟩ := known.kept.turn
  exact ⟨last, ⟨kept, known.id_eq.trans moves.extends.id_eq.symm, known.socket_eq⟩, moves⟩

theorem flatMap_replicate_zero (frames : List Value) : frames.flatMap (List.replicate 0) = [] := by
  simp [List.flatMap_eq_nil_iff]

theorem flatMap_replicate_one (frames : List Value) :
    frames.flatMap (List.replicate 1) = frames :=
  List.flatMap_singleton' frames

/-- What a run announces is pushed on to the socket. -/
theorem Served.run {last : Broadcaster} (served : watch.Served socket base hub)
    (moves : watch.task.Moves hub (watch.turn .run).task last) :
    (watch.turn .run).Served socket base last := by
  obtain ⟨counts, received, news, serves, counts_le, frames_eq, sublist, attached⟩ := served.pushes
  obtain ⟨further, more, serves, announced, pushed⟩ := moves.serves serves
  have id_eq := moves.extends.id_eq
  refine ⟨moves.extends.trans served.goes, counts, further, news ++ more, serves, ?_, ?_, ?_, ?_⟩
  · rwa [id_eq]
  · rw [announced, frames_eq, List.append_assoc]
  · rw [pushed]
    refine sublist.append ?_
    rcases Nat.le_one_iff_eq_zero_or_eq_one.1 counts_le with none | one
    · rw [none, flatMap_replicate_zero]
      exact List.nil_sublist more
    · rw [one, flatMap_replicate_one]
  · intro going
    obtain ⟨one, news_eq⟩ := attached going
    rw [id_eq, pushed, one, news_eq]
    rw [flatMap_replicate_one]
    exact ⟨rfl, rfl⟩

/-- A session that goes on with the same broadcaster is served on. -/
theorem Served.goOn {engine : Engine} {next : Session} (served : watch.Served socket base hub)
    (going : ¬ next.IsOver → ¬ watch.session.IsOver) :
    ({ watch with engine, session := next } : Watch).Served socket base hub := by
  obtain ⟨counts, received, news, serves, counts_le, frames_eq, sublist, attached⟩ := served.pushes
  exact ⟨served.goes, counts, received, news, serves, counts_le, frames_eq, sublist,
    fun stays => attached (going stays)⟩

theorem Served.elsewhere {last : Broadcaster} (served : watch.Served socket base hub)
    (task_eq : (watch.turn next).task = watch.task)
    (session_eq : (watch.turn next).session = watch.session)
    (serves : ∀ counts received, hub.Serves socket counts received →
      last.Serves socket counts received) :
    (watch.turn next).Served socket base last := by
  obtain ⟨counts, received, news, served_by, counts_le, frames_eq, sublist, attached⟩ :=
    served.pushes
  refine ⟨task_eq ▸ served.goes, counts, received, news, serves _ _ served_by, ?_⟩
  rw [task_eq, session_eq]
  exact ⟨counts_le, frames_eq, sublist, attached⟩

/-- A session that leaves is taken off the broadcaster. -/
theorem Served.leave (known : watch.Known socket hub) (served : watch.Served socket base hub)
    (fault : Option Fault) :
    ∃ last,
      let left := watch.session.leave watch.engine fault
      let next : Watch := { watch with engine := left.1, session := left.2 }
      next.Known socket last ∧ next.Served socket base last := by
  obtain ⟨counts, received, news, serves, counts_le, frames_eq, sublist, -⟩ := served.pushes
  refine ⟨hub.remove watch.session.executionId watch.session.socket, ?_, ?_⟩
  · exact ⟨known.kept.withHub rfl, known.id_eq, known.socket_eq⟩
  · exact ⟨served.goes, _, received, news, serves.remove _ _,
      Nat.le_trans (serves.count_remove_le _ _ _) counts_le, frames_eq, sublist,
      fun going => absurd ⟨fault, rfl⟩ going⟩

/-! ## Phases of a session -/

/-- The session has not registered its socket. -/
structure Unattached (watch : Watch) (socket : SocketId) (hub : Broadcaster) : Prop extends
    watch.Known socket hub where
  stage_eq : watch.session.stage = .accepting
  sent_eq : watch.session.sent = []
  unserved : ∃ counts, counts watch.task.id = 0 ∧ hub.Serves socket counts []
  unowed : watch.task.owedTo socket = []

/-- The socket was registered when the run stood at `base`, and the replay has not begun. -/
structure Greeted (watch : Watch) (socket : SocketId) (base : Task) (hub : Broadcaster) :
    Prop extends watch.Known socket hub, watch.Served socket base hub where
  stage_eq : watch.session.stage = .greeted
  unreplayed : watch.session.sent.filter isLog = []

/-- The socket was registered when the run stood at `base`, and the replay began when so many entries
were recorded. -/
structure Replays (watch : Watch) (socket : SocketId) (base : Task) (snapshot : Nat)
    (hub : Broadcaster) : Prop extends
    watch.Known socket hub, watch.Served socket base hub where
  replayed : ∃ replayed, watch.session.Replayed watch.task base snapshot replayed

theorem Unattached.turn (unattached : watch.Unattached socket hub) (spares : next.Spares socket)
    (other : next ≠ .session) : ∃ last, (watch.turn next).Unattached socket last := by
  obtain ⟨counts, none, serves⟩ := unattached.unserved
  rcases next.cases with rfl | rfl | ⟨text, rfl⟩ | elsewhere
  · obtain ⟨last, known, moves⟩ := unattached.run
    obtain ⟨further, more, serves, -, pushed⟩ := moves.serves serves
    rw [unattached.unowed, none, flatMap_replicate_zero, List.nil_append, List.append_nil,
      List.append_eq_nil_iff] at pushed
    refine ⟨last, known, unattached.stage_eq, unattached.sent_eq, ⟨counts, ?_, ?_⟩, pushed.2⟩
    · rwa [moves.extends.id_eq]
    · rwa [← pushed.1]
  · exact absurd rfl other
  · have turn_eq : watch.turn (.text text) = watch := by
      simp only [Watch.turn, Session.receive, unattached.stage_eq]
    rw [turn_eq]
    exact ⟨hub, unattached⟩
  · obtain ⟨last, known, task_eq, session_eq, kept⟩ := unattached.elsewhere spares elsewhere
    refine ⟨last, known, ?_, ?_, ⟨counts, ?_, kept _ _ serves⟩, ?_⟩
    · rw [session_eq, unattached.stage_eq]
    · rw [session_eq, unattached.sent_eq]
    · rwa [task_eq]
    · rw [task_eq, unattached.unowed]

/-- The first turn of a session registers its socket. -/
theorem Unattached.attach (unattached : watch.Unattached socket hub) :
    ∃ last, (watch.turn .session).Greeted socket watch.task last := by
  obtain ⟨counts, none, serves⟩ := unattached.unserved
  have turn_eq : watch.turn .session =
      { watch with
        engine := watch.engine.withHub
          (·.add watch.session.executionId watch.session.socket)
        session := watch.session.past (connectedFrame watch.session.executionId) .greeted } := by
    simp only [Watch.turn, Session.advance, unattached.stage_eq, Session.send_connectedFrame]
  rw [turn_eq]
  have added := serves.add watch.session.executionId watch.session.socket
  have once : ((hub.add watch.session.executionId watch.session.socket).watchersOf
      watch.task.id).count socket = 1 := by
    rw [Broadcaster.watchersOf, Broadcaster.add, Broadcaster.under_appendUnder, unattached.id_eq,
      unattached.socket_eq, if_pos rfl, List.count_append]
    have before := serves.count_eq watch.task.id
    rw [none] at before
    rw [← Broadcaster.watchersOf, before]
    simp
  refine ⟨hub.add watch.session.executionId watch.session.socket, {
    kept := unattached.kept.withHub rfl
    id_eq := unattached.id_eq
    socket_eq := unattached.socket_eq
    goes := .refl watch.task
    pushes := ⟨_, [], [], added, Nat.le_of_eq once, (List.append_nil _).symm, ?_, ?_⟩
    stage_eq := rfl
    unreplayed := ?_ }⟩
  · rw [List.nil_append]
    exact List.sublist_nil.2 unattached.unowed
  · exact fun _ => ⟨once, unattached.unowed⟩
  · rw [filter_isLog_past_of_not rfl, unattached.sent_eq]
    rfl

theorem Greeted.turn (greeted : watch.Greeted socket base hub) (spares : next.Spares socket)
    (other : next ≠ .session) : ∃ last, (watch.turn next).Greeted socket base last := by
  rcases next.cases with rfl | rfl | ⟨text, rfl⟩ | elsewhere
  · obtain ⟨last, known, moves⟩ := greeted.run
    exact ⟨last, known, greeted.toServed.run moves, greeted.stage_eq, greeted.unreplayed⟩
  · exact absurd rfl other
  · have turn_eq : watch.turn (.text text) = watch := by
      simp only [Watch.turn, Session.receive, greeted.stage_eq]
    rw [turn_eq]
    exact ⟨hub, greeted⟩
  · obtain ⟨last, known, task_eq, session_eq, serves⟩ := greeted.toKnown.elsewhere spares elsewhere
    refine ⟨last, known, greeted.toServed.elsewhere task_eq session_eq serves, ?_, ?_⟩
    · rw [session_eq, greeted.stage_eq]
    · rw [session_eq, greeted.unreplayed]

/-- A session that leaves has replayed what it had. -/
theorem Replays.left {snapshot : Nat} (known : watch.Known socket hub)
    (served : watch.Served socket base hub)
    (sent : watch.session.HasSent watch.task base snapshot replayed) (fault : Option Fault) :
    ∃ last, ({ watch with
      engine := (watch.session.leave watch.engine fault).1
      session := (watch.session.leave watch.engine fault).2 } : Watch).Replays socket base snapshot
        last := by
  obtain ⟨last, known, served⟩ := served.leave known fault
  exact ⟨last, known, served, replayed,
    ⟨sent.replayed_le, sent.snapshot_le, sent.base_le, sent.logs⟩, trivial⟩

/-- A turn of the replay goes on with it. -/
theorem Replays.replay {snapshot : Nat} (known : watch.Known socket hub)
    (served : watch.Served socket base hub) (going : ¬ watch.session.IsOver)
    (sent : watch.session.HasSent watch.task base snapshot replayed) :
    ∃ last, ({ watch with
      engine := (watch.session.replay watch.engine replayed snapshot).1
      session := (watch.session.replay watch.engine replayed snapshot).2 } : Watch).Replays socket
        base snapshot last := by
  rcases replayed_replay known.kept known.id_eq served.goes sent with
    ⟨fault, replay_eq⟩ | ⟨next, further, replay_eq, stays, id_eq, socket_eq, replays⟩
  · rw [replay_eq]
    exact Replays.left known served sent (some fault)
  · rw [replay_eq]
    exact ⟨hub, ⟨known.kept, id_eq, socket_eq.trans known.socket_eq⟩,
      served.goOn fun _ => going, further, replays⟩

/-- The second turn of a session begins the replay. -/
theorem Greeted.replay (greeted : watch.Greeted socket base hub) :
    ∃ last, (watch.turn .session).Replays socket base watch.task.told.length last := by
  obtain ⟨later, told_eq⟩ := greeted.goes.told
  have going := Session.not_isOver greeted.stage_eq (by rintro _ ⟨⟩)
  have sent : watch.session.HasSent watch.task base watch.task.told.length 0 := by
    refine ⟨Nat.zero_le _, Nat.le_refl _, ?_, ?_⟩
    · rw [told_eq, List.length_append]
      exact Nat.le_add_right _ _
    · rw [greeted.unreplayed]
      exact .nil
  simp only [Watch.turn, Session.advance, greeted.stage_eq]
  rw [greeted.id_eq, greeted.kept.recorded_eq, greeted.kept.length_eq]
  cases found : watch.engine.run? watch.task.id with
  | some run => exact Replays.replay greeted.toKnown greeted.toServed going sent
  | none =>
      -- The run has not begun: nothing is recorded, and there is nothing to replay.
      have untold : watch.task.told = [] :=
        greeted.kept.unbegun (Task.Stage.eq_waiting_of_run?_eq_none
          (greeted.kept.run?_eq.symm.trans found))
      have base_untold : base.told = [] := by
        rw [told_eq, List.append_eq_nil_iff] at untold
        exact untold.1
      have ending := ending_subset greeted.goes greeted.kept.run?_eq
      rw [found] at ending
      simp only [Session.send_waitingFrame]
      refine ⟨hub, ⟨greeted.kept, greeted.id_eq, greeted.socket_eq⟩,
        greeted.goOn fun _ => going, 0, ⟨Nat.zero_le _, sent.snapshot_le, sent.base_le, ?_⟩, ?_, ?_⟩
      · rw [filter_isLog_past_of_not rfl]
        exact sent.logs
      · rw [base_untold]
        exact Nat.le_refl _
      · exact fun frame member => absurd (ending member) List.not_mem_nil

theorem isLog_answer {text : String} {frame : Value}
    (answered : Session.answer text = .ok (some frame)) : isLog frame = false := by
  rcases Session.eq_of_answer answered with rfl | rfl <;> rfl

theorem Replays.advance {snapshot : Nat} (replays : watch.Replays socket base snapshot hub) :
    ∃ last, (watch.turn .session).Replays socket base snapshot last := by
  obtain ⟨replayed, sent, stage⟩ := replays.replayed
  simp only [Watch.turn, Session.advance]
  cases stage_eq : watch.session.stage with
  | accepting => simp [stage_eq] at stage
  | greeted => simp [stage_eq] at stage
  | replaying position count =>
      simp only [stage_eq] at stage
      obtain ⟨rfl, rfl⟩ := stage
      have going := Session.not_isOver stage_eq (by rintro _ ⟨⟩)
      exact Replays.replay replays.toKnown replays.toServed going sent
  | listening => exact ⟨hub, replays⟩
  | _ => exact ⟨hub, replays⟩

/-- Texts are answered by frames that carry no entries. -/
theorem Replays.receive {snapshot : Nat} (replays : watch.Replays socket base snapshot hub)
    (text : String) : ∃ last, (watch.turn (.text text)).Replays socket base snapshot last := by
  obtain ⟨replayed, sent, stage⟩ := replays.replayed
  simp only [Watch.turn, Session.receive]
  cases stage_eq : watch.session.stage with
  | listening =>
      simp only [stage_eq] at stage
      have going := Session.not_isOver stage_eq (by rintro _ ⟨⟩)
      rcases answered : Session.answer text with fault | _ | frame
      · exact Replays.left replays.toKnown replays.toServed sent (some fault)
      · exact ⟨hub, replays⟩
      · simp only [Session.send_answer answered]
        refine ⟨hub, ⟨replays.kept, replays.id_eq, replays.socket_eq⟩, replays.goOn fun _ => going,
          replayed, ⟨sent.replayed_le, sent.snapshot_le, sent.base_le, ?_⟩, stage.1, ?_⟩
        · rw [filter_isLog_past_of_not (isLog_answer answered)]
          exact sent.logs
        · exact fun frame member => List.mem_append_left _ (stage.2 member)
  | accepting => exact ⟨hub, replays⟩
  | greeted => exact ⟨hub, replays⟩
  | replaying position count => exact ⟨hub, replays⟩
  | _ => exact ⟨hub, replays⟩

theorem Replays.turn {snapshot : Nat} (replays : watch.Replays socket base snapshot hub)
    (spares : next.Spares socket) :
    ∃ last, (watch.turn next).Replays socket base snapshot last := by
  rcases next.cases with rfl | rfl | ⟨text, rfl⟩ | elsewhere
  · obtain ⟨last, known, moves⟩ := replays.run
    obtain ⟨replayed, replayed_eq⟩ := replays.replayed
    exact ⟨last, known, replays.toServed.run moves, replayed, replayed_eq.extends moves.extends⟩
  · exact replays.advance
  · exact replays.receive text
  · obtain ⟨last, known, task_eq, session_eq, serves⟩ := replays.toKnown.elsewhere spares elsewhere
    refine ⟨last, known, replays.toServed.elsewhere task_eq session_eq serves, ?_⟩
    rw [task_eq, session_eq]
    exact replays.replayed

/-! ## Schedules -/

theorem turns_append (watch : Watch) (first second : List Turn) :
    watch.turns (first ++ second) = (watch.turns first).turns second :=
  List.foldl_append

theorem turns_cons (watch : Watch) (turn : Turn) (rest : List Turn) :
    watch.turns (turn :: rest) = (watch.turn turn).turns rest :=
  rfl

/-- What every turn of a kind preserves, a schedule of such turns preserves. -/
theorem turns_preserve {holds : Watch → Prop} {allowed : Turn → Prop}
    (step : ∀ watch turn, holds watch → allowed turn → holds (watch.turn turn))
    (begins : holds watch) {schedule : List Turn} (all : ∀ turn ∈ schedule, allowed turn) :
    holds (watch.turns schedule) := by
  induction schedule generalizing watch with
  | nil => exact begins
  | cons turn rest ih =>
      obtain ⟨here, later⟩ := List.forall_mem_cons.1 all
      exact ih (step watch turn begins here) later

theorem id_turns (watch : Watch) (schedule : List Turn) :
    (watch.turns schedule).task.id = watch.task.id := by
  refine @turns_preserve watch (fun other => other.task.id = watch.task.id) (fun _ => True) ?_ rfl
    schedule fun _ _ => trivial
  intro other turn same _
  rw [← same]
  cases turn with
  | run => exact Task.id_turn other.task other.engine
  | _ => rfl

theorem Unattached.turns (unattached : watch.Unattached socket hub) {schedule : List Turn}
    (spares : ∀ turn ∈ schedule, turn.Spares socket) (others : .session ∉ schedule) :
    ∃ last, (watch.turns schedule).Unattached socket last := by
  refine @turns_preserve watch (fun watch => ∃ last, watch.Unattached socket last)
    (fun turn => turn.Spares socket ∧ turn ≠ .session) ?_ ⟨hub, unattached⟩ schedule ?_
  · rintro watch turn ⟨hub, unattached⟩ ⟨spares, other⟩
    exact unattached.turn spares other
  · exact fun turn member => ⟨spares turn member, fun same => others (same ▸ member)⟩

theorem Greeted.turns (greeted : watch.Greeted socket base hub) {schedule : List Turn}
    (spares : ∀ turn ∈ schedule, turn.Spares socket) (others : .session ∉ schedule) :
    ∃ last, (watch.turns schedule).Greeted socket base last := by
  refine @turns_preserve watch (fun watch => ∃ last, watch.Greeted socket base last)
    (fun turn => turn.Spares socket ∧ turn ≠ .session) ?_ ⟨hub, greeted⟩ schedule ?_
  · rintro watch turn ⟨hub, greeted⟩ ⟨spares, other⟩
    exact greeted.turn spares other
  · exact fun turn member => ⟨spares turn member, fun same => others (same ▸ member)⟩

theorem Replays.turns {snapshot : Nat} (replays : watch.Replays socket base snapshot hub)
    {schedule : List Turn} (spares : ∀ turn ∈ schedule, turn.Spares socket) :
    ∃ last, (watch.turns schedule).Replays socket base snapshot last := by
  refine @turns_preserve watch (fun watch => ∃ last, watch.Replays socket base snapshot last)
    (·.Spares socket) ?_ ⟨hub, replays⟩ schedule spares
  rintro watch turn ⟨hub, replays⟩ spares
  exact replays.turn spares

/-- On every schedule a session stands before its first turn, between its first and its second, or
behind both. -/
theorem Unattached.phases (unattached : watch.Unattached socket hub) (schedule : List Turn)
    (spares : ∀ turn ∈ schedule, turn.Spares socket) :
    (∃ last, (watch.turns schedule).Unattached socket last) ∨
    (∃ base last, (watch.turns schedule).Greeted socket base last) ∨
    ∃ before between after last, schedule = before ++ .session :: (between ++ .session :: after) ∧
      .session ∉ before ∧ .session ∉ between ∧
      (watch.turns schedule).Replays socket (watch.turns before).task
        (watch.turns (before ++ .session :: between)).task.told.length last := by
  -- The schedule is cut at the first and at the second turn of the session, if it has them.
  by_cases first : .session ∈ schedule
  · obtain ⟨before, rest, rfl, none⟩ := List.eq_append_cons_of_mem first
    obtain ⟨sparesBefore, -, sparesRest⟩ := by
      simpa only [List.forall_mem_append, List.forall_mem_cons] using spares
    obtain ⟨_, reached⟩ := unattached.turns sparesBefore none
    obtain ⟨_, greeted⟩ := reached.attach
    right
    by_cases second : .session ∈ rest
    · obtain ⟨between, after, rfl, none'⟩ := List.eq_append_cons_of_mem second
      obtain ⟨sparesBetween, -, sparesAfter⟩ := by
        simpa only [List.forall_mem_append, List.forall_mem_cons] using sparesRest
      obtain ⟨_, greeted⟩ := greeted.turns sparesBetween none'
      obtain ⟨_, replays⟩ := greeted.replay
      obtain ⟨last, replays⟩ := replays.turns sparesAfter
      refine .inr ⟨before, between, after, last, rfl, none, none', ?_⟩
      simpa only [turns_append, turns_cons] using replays
    · obtain ⟨last, greeted⟩ := greeted.turns sparesRest second
      refine .inl ⟨(watch.turns before).task, last, ?_⟩
      rw [turns_append]
      exact greeted
  · exact .inl (unattached.turns spares first)

end Watch

end Live

end Workflow
