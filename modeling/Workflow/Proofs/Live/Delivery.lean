import Workflow.Proofs.Live.Phases
import Workflow.Proofs.Value.Nesting

/-!
# What a watching client receives

What a run announces after a socket was registered is pushed to it; what was recorded before the
replay began is replayed.  So a client that stays loses nothing that can be written, and it receives
twice only what was recorded in between.
-/

namespace Workflow.Live

variable {engine : Engine} {hub : Broadcaster} {watch : Watch} {socket : SocketId} {base : Task}

/-! ## Frames and entries -/

theorem exists_carrier {entry : Entry} {entries : List Entry} {frames : List Value}
    (carried : List.Forall₂ Entry.IsCarriedBy entries frames) (member : entry ∈ entries) :
    ∃ frame ∈ frames, entry.IsCarriedBy frame := by
  induction carried with
  | nil => cases member
  | cons here rest ih =>
      rcases List.mem_cons.1 member with rfl | later
      · exact ⟨_, List.mem_cons_self, here⟩
      · obtain ⟨frame, among, carried⟩ := ih later
        exact ⟨frame, List.mem_cons_of_mem _ among, carried⟩

theorem mem_framesOf {entry : Entry} {entries : List Entry} (member : entry ∈ entries)
    (fits : entry.fits = true) :
    ∃ frame ∈ Broadcaster.framesOf entries, entry.IsCarriedBy frame := by
  refine ⟨_, List.mem_map_of_mem (List.mem_filter.2 ⟨member, fits⟩), entry, rfl, ?_⟩
  rw [Broadcaster.logFrame_eq, if_pos fits]

/-- A frame tells of the event that an entry tells of. -/
def tells (entry : Entry) : Value → Bool
  | .obj fields =>
    match Value.field fields "type", Value.field fields "stepIndex", Value.field fields "phase" with
    | .str type, .int index, .str phase =>
      type = "log" ∧ index = entry.index ∧ phase = entry.phase.name
    | _, _, _ => false
  | _ => false

/-- An entry tells of the event that another one tells of. -/
def tellsOfSame (entry other : Entry) : Bool :=
  (other.index, other.phase) = (entry.index, entry.phase)

theorem name_injective {phase other : Phase} (same : phase.name = other.name) : phase = other := by
  cases phase <;> cases other <;> first | rfl | (simp [Phase.name] at same)

/-- A frame that carries an entry tells of its event. -/
theorem tells_of_isCarriedBy {entry other : Entry} {frame : Value}
    (carried : other.IsCarriedBy frame) : tells entry frame = tellsOfSame entry other := by
  obtain ⟨version, bare_eq, written⟩ := carried
  rw [Broadcaster.logFrame_eq] at written
  split at written
  · rw [← Except.ok.inj written]
    have index_eq : version.index = other.index := (congrArg Entry.index bare_eq :)
    have phase_eq : version.phase = other.phase := (congrArg Entry.phase bare_eq :)
    have tells_eq : tells entry (.obj (("type", .str "log") :: version.toObject)) =
        decide ("log" = "log" ∧ version.index = entry.index ∧
          version.phase.name = entry.phase.name) := rfl
    rw [tells_eq, tellsOfSame, index_eq, phase_eq]
    simp only [true_and, Prod.mk.injEq, decide_eq_decide, and_congr_right_iff]
    exact fun _ => ⟨name_injective, congrArg Phase.name⟩
  · cases written

theorem isLog_of_tells {entry : Entry} {frame : Value} (told : tells entry frame = true) :
    isLog frame = true := by
  unfold tells at told
  unfold isLog
  split at told
  · split at told
    · rename_i type_eq _ _
      simp only [type_eq]
      simp at told
      simp [told.1]
    · cases told
  · cases told

theorem countP_tells {entries : List Entry} {frames : List Value} (entry : Entry)
    (carried : List.Forall₂ Entry.IsCarriedBy entries frames) :
    frames.countP (tells entry) = entries.countP (tellsOfSame entry) := by
  induction carried with
  | nil => rfl
  | cons here rest ih => rw [List.countP_cons, List.countP_cons, ih, tells_of_isCarriedBy here]

theorem countP_tells_framesOf (entry : Entry) (entries : List Entry) :
    (Broadcaster.framesOf entries).countP (tells entry) ≤ entries.countP (tellsOfSame entry) := by
  have carried : List.Forall₂ Entry.IsCarriedBy (entries.filter Entry.fits)
      (Broadcaster.framesOf entries) := by
    rw [Broadcaster.framesOf, List.forall₂_map_right_iff, List.forall₂_same]
    intro other member
    refine ⟨other, rfl, ?_⟩
    rw [Broadcaster.logFrame_eq, if_pos (List.mem_filter.1 member).2]
  rw [countP_tells entry carried]
  exact List.filter_sublist.countP_le

/-- A run tells of each event at most once. -/
theorem countP_told {task : Task} (numbered : task.Numbered) (entry : Entry) :
    task.told.countP (tellsOfSame entry) ≤ 1 := by
  have counted := List.nodup_iff_count_le_one.1 numbered.nodup (entry.index, entry.phase)
  rw [List.count_eq_countP, List.countP_map] at counted
  refine Nat.le_trans (Nat.le_of_eq (List.countP_congr ?_)) counted
  simp [tellsOfSame]

theorem countP_ending (entry : Entry) (task : Task) : task.ending.countP (tells entry) = 0 := by
  unfold Task.ending
  split <;> rfl

theorem countP_sent (entry : Entry) (frames : List Value) :
    frames.countP (tells entry) = (frames.filter isLog).countP (tells entry) := by
  rw [List.countP_filter]
  refine List.countP_congr fun frame _ => ?_
  simp only [Bool.and_eq_true]
  exact ⟨fun told => ⟨told, isLog_of_tells told⟩, And.left⟩

/-- An entry that is told of at two sides of a position in a list is not single there. -/
theorem countP_take_add_drop (entry : Entry) (entries : List Entry) (n : Nat) :
    (entries.take n).countP (tellsOfSame entry) + (entries.drop n).countP (tellsOfSame entry) =
      entries.countP (tellsOfSame entry) := by
  rw [← List.countP_append, List.take_append_drop]

theorem countP_pos_of_mem {entry : Entry} {entries : List Entry} (member : entry ∈ entries) :
    0 < entries.countP (tellsOfSame entry) :=
  List.countP_pos_iff.2 ⟨entry, member, by simp [tellsOfSame]⟩

theorem Task.Stage.exists_done_of_outcome? {stage : Task.Stage}
    (come : (stage.outcome?.bind Except.toOption).isSome = true) :
    ∃ run, stage = .done run none := by
  rcases stage with _ | _ | ⟨run, _ | failure⟩
  · cases come
  · cases come
  · exact ⟨run, rfl⟩
  · cases come

/-- The client may send texts. -/
def Stage.isListening : Stage → Bool
  | .listening => true
  | _ => false

theorem Stage.eq_listening {stage : Stage} (listens : stage.isListening = true) :
    stage = .listening := by
  cases stage <;> first | rfl | cases listens

namespace Watch

/-! ## Nothing is lost -/

/-- What was announced since a socket was registered. -/
theorem Served.news_eq {base : Task} (goes : watch.task.Extends base) {news : List Value}
    (frames_eq : watch.task.frames = base.frames ++ news) :
    (base.stage.IsOver → watch.task.ending = base.ending) ∧
    (¬ base.stage.IsOver → news =
      Broadcaster.framesOf (watch.task.told.drop base.told.length) ++ watch.task.ending) := by
  constructor
  · intro ended
    rw [Task.ending, Task.ending, (goes.ended ended).1, goes.id_eq]
  · intro going
    obtain ⟨later, told_eq⟩ := goes.told
    rw [Task.frames, Task.frames, Task.ending_of_not_isOver going, told_eq,
      Broadcaster.framesOf_append, List.append_nil, List.append_assoc] at frames_eq
    rw [told_eq, List.drop_left, List.append_cancel_left frames_eq]

/-- A run that is about to begin under an id that is not taken, and a client that is about to connect
with a socket of its own. -/
structure Begins (watch : Watch) (hub : Broadcaster) : Prop where
  sink_eq : watch.engine.scene.sink = .broadcaster hub
  stage_eq : watch.task.stage = .waiting
  owed_eq : watch.task.owed = []
  told_eq : watch.task.told = []
  fresh : watch.engine.run? watch.task.id = none
  unrecorded : hub.entriesOf watch.task.id = []
  session_eq : watch.session = { executionId := watch.task.id, socket := watch.session.socket }
  serves : hub.Serves watch.session.socket (fun _ => 0) []

theorem Begins.unattached (begins : watch.Begins hub) :
    watch.Unattached watch.session.socket hub where
  kept := by
    refine ⟨begins.sink_eq, ?_, ?_, ?_, fun _ => begins.told_eq⟩
    · rw [begins.unrecorded, begins.told_eq]
    · rw [begins.fresh, begins.stage_eq]
      rfl
    · rw [begins.stage_eq]
      rintro run ⟨⟩
  id_eq := congrArg Session.executionId begins.session_eq
  socket_eq := rfl
  stage_eq := congrArg Session.stage begins.session_eq
  sent_eq := congrArg Session.sent begins.session_eq
  unserved := ⟨_, rfl, begins.serves⟩
  unowed := by
    rw [Task.owedTo, begins.owed_eq]
    rfl

/-- Whenever a client that watches a run has its replay behind it and the run is over, it has received
every recorded entry that could be written when it was recorded, and the status that the run ended
with: on every schedule of the run and the session, with whatever texts, sockets and happenings in
between, as long as the pushes to the client succeed. -/
theorem nothing_lost (begins : watch.Begins hub) (schedule : List Turn)
    (spares : ∀ turn ∈ schedule, turn.Spares watch.session.socket) {run : Run}
    (finished : (watch.turns schedule).task.stage = .done run none)
    (paid : (watch.turns schedule).task.owed = [])
    (replayed : (watch.turns schedule).session.stage = .listening) :
    let ended := watch.turns schedule
    ∃ last, ended.engine.scene.sink = .broadcaster last ∧
      ended.engine.run? watch.task.id = some run ∧
      (last.entriesOf watch.task.id).map Entry.bare = ended.task.told.map Entry.bare ∧
      (∀ entry ∈ ended.task.told, entry.fits = true →
        ∃ frame ∈ last.received watch.session.socket ++ ended.session.sent,
          entry.IsCarriedBy frame) ∧
      Broadcaster.statusFrame watch.task.id run.status.name ∈
        last.received watch.session.socket ++ ended.session.sent := by
  intro ended
  rcases begins.unattached.phases schedule spares with
    ⟨last, unattached⟩ | ⟨base, last, greeted⟩ | ⟨before, between, after, last, -, -, -, replays⟩
  · rw [unattached.stage_eq] at replayed
    cases replayed
  · rw [greeted.stage_eq] at replayed
    cases replayed
  obtain ⟨count, sent, stage⟩ := replays.replayed
  simp only [replayed] at stage
  obtain ⟨counts, received, news, serves, -, frames_eq, -, attached⟩ := replays.pushes
  have going : ¬ ended.session.IsOver := Session.not_isOver replayed (by rintro _ ⟨⟩)
  have received_eq : last.received watch.session.socket = news := by
    rw [serves.received_eq, ← (attached going).2, Task.owedTo, paid]
    simp
  have ending_eq : ended.task.ending =
      [Broadcaster.statusFrame watch.task.id run.status.name] := by
    rw [Task.ending, finished, ← id_turns watch schedule]
  obtain ⟨ended_before, ended_since⟩ := Served.news_eq replays.goes frames_eq
  refine ⟨last, replays.kept.sink_eq, ?_, ?_, ?_, ?_⟩
  · rw [← id_turns watch schedule, replays.kept.run?_eq, finished]
    rfl
  · rw [← id_turns watch schedule, replays.kept.entries_eq]
  · intro entry member fits
    rw [← List.take_append_drop (watch.turns before).task.told.length ended.task.told] at member
    rcases List.mem_append.1 member with early | late
    · have among := (List.take_subset_take_left _ stage.1) early
      obtain ⟨frame, in_logs, carried⟩ := exists_carrier sent.logs among
      exact ⟨frame, List.mem_append_right _ (List.mem_filter.1 in_logs).1, carried⟩
    · have going : ¬ (watch.turns before).task.stage.IsOver := by
        intro early
        rw [(replays.goes.ended early).2, List.drop_length] at late
        cases late
      obtain ⟨frame, among, carried⟩ := mem_framesOf late fits
      refine ⟨frame, List.mem_append_left _ ?_, carried⟩
      rw [received_eq, ended_since going]
      exact List.mem_append_left _ among
  · by_cases early : (watch.turns before).task.stage.IsOver
    · refine List.mem_append_right _ (stage.2 ?_)
      rw [← ended_before early, ending_eq]
      exact List.mem_singleton_self _
    · refine List.mem_append_left _ ?_
      rw [received_eq, ended_since early, ending_eq]
      simp

theorem Begins.exists_hub (begins : watch.Begins hub) (schedule : List Turn)
    (spares : ∀ turn ∈ schedule, turn.Spares watch.session.socket) :
    ∃ last, (watch.turns schedule).engine.scene.sink = .broadcaster last := by
  rcases begins.unattached.phases schedule spares with
    ⟨last, unattached⟩ | ⟨base, last, greeted⟩ | ⟨before, between, after, last, -, -, -, replays⟩
  · exact ⟨last, unattached.kept.sink_eq⟩
  · exact ⟨last, greeted.kept.sink_eq⟩
  · exact ⟨last, replays.kept.sink_eq⟩

/-- A run of one step of an unknown kind that is about to begin, and a client that is about to
connect. -/
def unknownWatch (value : Value) : Watch where
  engine := Engine.silentEngine.drawId.2
  task := {
    id := Identifier.grouped 1
    steps := [Engine.unknownStep value]
    input := .obj []
    headers := .null }
  session := { executionId := Identifier.grouped 1, socket := 0 }

theorem begins_unknownWatch (value : Value) : (unknownWatch value).Begins {} where
  sink_eq := rfl
  stage_eq := rfl
  owed_eq := rfl
  told_eq := rfl
  fresh := rfl
  unrecorded := rfl
  session_eq := rfl
  serves := ⟨by simp, fun _ => rfl, fun _ => rfl, rfl⟩

/-- A client that connects before the run begins, and whose session replays when the first entry is
recorded, receives both entries and the status. -/
theorem nothing_lost_unknownKind :
    let ended := (unknownWatch .null).turns
      [.session, .run, .run, .run, .session, .session, .run, .run, .run, .run]
    ∃ last run, ended.engine.scene.sink = .broadcaster last ∧
      ended.engine.run? (Identifier.grouped 1) = some run ∧ ended.task.told.length = 2 ∧
      (∀ entry ∈ ended.task.told,
        ∃ frame ∈ last.received 0 ++ ended.session.sent, entry.IsCarriedBy frame) ∧
      Broadcaster.statusFrame (Identifier.grouped 1) run.status.name ∈
        last.received 0 ++ ended.session.sent := by
  dsimp only
  have received run := @nothing_lost _ _ (begins_unknownWatch .null)
    [.session, .run, .run, .run, .session, .session, .run, .run, .run, .run]
    (by simp [Turn.Spares]) run
  generalize ended_eq : (unknownWatch .null).turns _ = ended at received ⊢
  have finished : (ended.task.stage.outcome?.bind Except.toOption).isSome = true := by
    subst ended_eq
    decide +kernel
  have paid : ended.task.owed.isEmpty = true := by
    subst ended_eq
    decide +kernel
  have listening : ended.session.stage.isListening = true := by
    subst ended_eq
    decide +kernel
  have ⟨two, fits⟩ : ended.task.told.length = 2 ∧ ended.task.told.all Entry.fits = true := by
    subst ended_eq
    decide +kernel
  obtain ⟨run, stage_eq⟩ := Task.Stage.exists_done_of_outcome? finished
  obtain ⟨last, sink_eq, run_eq, -, carried, status⟩ :=
    received run stage_eq (List.isEmpty_iff.1 paid) (Stage.eq_listening listening)
  exact ⟨last, run, sink_eq, run_eq, two,
    fun entry member => carried entry member (List.all_eq_true.1 fits entry member), status⟩

/-- A client that stays does not always receive every entry. -/
theorem entries_not_always_received :
    ¬ ∀ (watch : Watch) (hub last : Broadcaster) (schedule : List Turn) (run : Run),
      watch.Begins hub → (∀ turn ∈ schedule, turn.Spares watch.session.socket) →
      (watch.turns schedule).task.stage = .done run none →
      (watch.turns schedule).task.owed = [] →
      (watch.turns schedule).session.stage = .listening →
      (watch.turns schedule).engine.scene.sink = .broadcaster last →
      ∀ entry ∈ (watch.turns schedule).task.told,
        ∃ frame ∈ last.received watch.session.socket ++ (watch.turns schedule).session.sent,
          entry.IsCarriedBy frame := by
  intro whole
  let schedule : List Turn :=
    [.session, .session, .run, .run, .run, .run, .run, .run, .run]
  have begins := begins_unknownWatch (nested 300)
  have spares : ∀ turn ∈ schedule, turn.Spares 0 := by simp [schedule, Turn.Spares]
  have claimed last run := whole (unknownWatch (nested 300)) {} last schedule run begins spares
  obtain ⟨last, sink_eq⟩ := begins.exists_hub schedule spares
  have finished : (((unknownWatch (nested 300)).turns schedule).task.stage.outcome?.bind
      Except.toOption).isSome = true := by decide +kernel
  have paid : ((unknownWatch (nested 300)).turns schedule).task.owed.isEmpty = true := by
    decide +kernel
  have listening : ((unknownWatch (nested 300)).turns schedule).session.stage.isListening = true := by
    decide +kernel
  have told : ((unknownWatch (nested 300)).turns schedule).task.told.isEmpty = false := by
    decide +kernel
  have silent : ((((unknownWatch (nested 300)).turns schedule).engine.scene.sink.hub?.getD {}).received
      0 ++ ((unknownWatch (nested 300)).turns schedule).session.sent).any isLog = false := by
    decide +kernel
  -- Nothing is to look into the tower from here on.
  generalize (unknownWatch (nested 300)).turns schedule = ended at *
  obtain ⟨entry, member⟩ := List.exists_mem_of_ne_nil ended.task.told (by simpa using told)
  obtain ⟨run, stage_eq⟩ := Task.Stage.exists_done_of_outcome? finished
  obtain ⟨frame, among, carried⟩ := claimed last run stage_eq (List.isEmpty_iff.1 paid)
    (Stage.eq_listening listening) sink_eq entry member
  rw [sink_eq] at silent
  exact List.any_eq_false.1 silent frame among (isLog_of_isCarriedBy carried)

/-! ## What is received twice -/

theorem numbered_turns (numbered : watch.task.Numbered) (schedule : List Turn) :
    (watch.turns schedule).task.Numbered := by
  refine @turns_preserve watch (·.task.Numbered) (fun _ => True) ?_ numbered schedule
    fun _ _ => trivial
  intro watch turn numbered _
  cases turn with
  | run => exact numbered.turn watch.engine
  | _ => exact numbered

/-- What is pushed tells of the entries that were recorded since the socket was registered. -/
theorem Served.countP_le (served : watch.Served socket base hub) (entry : Entry) :
    (hub.received socket).countP (tells entry) ≤
      (watch.task.told.drop base.told.length).countP (tellsOfSame entry) := by
  obtain ⟨counts, received, news, serves, -, frames_eq, sublist, -⟩ := served.pushes
  obtain ⟨-, since⟩ := Served.news_eq served.goes frames_eq
  rw [serves.received_eq]
  refine Nat.le_trans ((List.sublist_append_left received _).trans sublist).countP_le ?_
  by_cases early : base.stage.IsOver
  · have ending_eq := (Served.news_eq served.goes frames_eq).1 early
    rw [Task.frames, Task.frames, (served.goes.ended early).2, ending_eq,
      List.self_eq_append_right] at frames_eq
    rw [frames_eq]
    exact Nat.zero_le _
  · rw [since early, List.countP_append, countP_ending]
    exact countP_tells_framesOf entry _

/-- No entry of a run is pushed to a client twice, and none is replayed to it twice.  A client receives
one twice only if it was recorded between the first turn of the session, which registers its socket,
and the second, which begins the replay. -/
theorem twice_only_between (begins : watch.Begins hub) (schedule : List Turn)
    (spares : ∀ turn ∈ schedule, turn.Spares watch.session.socket) :
    let ended := watch.turns schedule
    ∃ last, ended.engine.scene.sink = .broadcaster last ∧
      ∀ (position : Nat) (entry : Entry), ended.task.told[position]? = some entry →
        (last.received watch.session.socket).countP (tells entry) ≤ 1 ∧
        ended.session.sent.countP (tells entry) ≤ 1 ∧
        (1 < (last.received watch.session.socket ++ ended.session.sent).countP (tells entry) →
          ∃ before between after,
            schedule = before ++ .session :: (between ++ .session :: after) ∧
            .session ∉ before ∧ .session ∉ between ∧
            (watch.turns before).task.told.length ≤ position ∧
            position < (watch.turns (before ++ .session :: between)).task.told.length) := by
  intro ended
  have numbered : ended.task.Numbered := by
    refine numbered_turns ⟨?_, ?_⟩ schedule
    · rw [begins.told_eq]
      exact List.nodup_nil
    · rw [begins.told_eq]
      simp
  rcases begins.unattached.phases schedule spares with
    ⟨last, unattached⟩ | ⟨base, last, greeted⟩ |
      ⟨before, between, after, last, schedule_eq, none, none', replays⟩
  · obtain ⟨counts, -, serves⟩ := unattached.unserved
    refine ⟨last, unattached.kept.sink_eq, fun position entry found => ?_⟩
    rw [serves.received_eq, unattached.sent_eq]
    simp
  · refine ⟨last, greeted.kept.sink_eq, fun position entry found => ?_⟩
    have pushed : (last.received watch.session.socket).countP (tells entry) ≤
        (ended.task.told.drop base.told.length).countP (tellsOfSame entry) :=
      greeted.toServed.countP_le entry
    have once := countP_told numbered entry
    have parts := countP_take_add_drop entry ended.task.told base.told.length
    have unsent : ended.session.sent.countP (tells entry) = 0 := by
      rw [countP_sent, greeted.unreplayed]
      rfl
    rw [List.countP_append, unsent]
    refine ⟨by omega, by omega, fun twice => ?_⟩
    omega
  · obtain ⟨count, sent, -⟩ := replays.replayed
    refine ⟨last, replays.kept.sink_eq, fun position entry found => ?_⟩
    have pushed : (last.received watch.session.socket).countP (tells entry) ≤
        (ended.task.told.drop (watch.turns before).task.told.length).countP (tellsOfSame entry) :=
      replays.toServed.countP_le entry
    have once := countP_told numbered entry
    have replayed : ended.session.sent.countP (tells entry) =
        (ended.task.told.take count).countP (tellsOfSame entry) := by
      rw [countP_sent, countP_tells entry sent.logs]
    have atBase := countP_take_add_drop entry ended.task.told (watch.turns before).task.told.length
    have atCount := countP_take_add_drop entry ended.task.told count
    have within := sent.replayed_le
    rw [List.countP_append]
    refine ⟨by omega, by omega, fun twice =>
      ⟨before, between, after, schedule_eq, none, none', ?_, ?_⟩⟩
    · by_contra early
      have among : entry ∈ ended.task.told.take (watch.turns before).task.told.length := by
        apply List.mem_of_getElem? (i := position)
        rw [List.getElem?_take_of_lt (by omega), found]
      have counted := countP_pos_of_mem among
      omega
    · by_contra late
      have among : entry ∈ ended.task.told.drop count := by
        apply List.mem_of_getElem? (i := position - count)
        rw [List.getElem?_drop, Nat.add_sub_cancel' (by omega), found]
      have counted := countP_pos_of_mem among
      omega

/-- A session that registers its socket after a run began is pushed the first entry, and then replays
it. -/
theorem twice_only_between_unknownKind :
    let ended := (unknownWatch .null).turns [.run, .session, .run, .run, .session]
    ∃ last entry, ended.engine.scene.sink = .broadcaster last ∧
      ended.task.told[0]? = some entry ∧ (last.received 0).countP (tells entry) ≤ 1 ∧
      ended.session.sent.countP (tells entry) ≤ 1 ∧
      (last.received 0 ++ ended.session.sent).countP (tells entry) = 2 ∧
      ∃ before between after,
        [.run, .session, .run, .run, .session] =
          before ++ Turn.session :: (between ++ .session :: after) ∧
        ((unknownWatch .null).turns before).task.told.length = 0 ∧
        0 < ((unknownWatch .null).turns (before ++ .session :: between)).task.told.length := by
  obtain ⟨last, sink_eq, once⟩ := twice_only_between (begins_unknownWatch .null)
    [.run, .session, .run, .run, .session] (by simp [Turn.Spares])
  dsimp only
  generalize ended_eq : (unknownWatch .null).turns [.run, .session, .run, .run, .session] = ended
    at sink_eq once ⊢
  have told : ended.task.told[0]?.isSome = true := by
    subst ended_eq
    decide +kernel
  obtain ⟨entry, found⟩ := Option.isSome_iff_exists.1 told
  have two : (last.received 0 ++ ended.session.sent).countP (tells entry) = 2 := by
    have shown : ended.task.told[0]?.map (fun entry =>
        ((ended.engine.scene.sink.hub?.getD {}).received 0 ++ ended.session.sent).countP
          (tells entry)) = some 2 := by
      subst ended_eq
      decide +kernel
    rw [found, sink_eq] at shown
    exact Option.some.inj shown
  obtain ⟨pushed, replayed, between⟩ := once 0 entry found
  obtain ⟨before, within, after, schedule_eq, -, -, early, late⟩ :=
    between (Nat.lt_of_lt_of_eq Nat.one_lt_two two.symm)
  exact ⟨last, entry, sink_eq, found, pushed, replayed, two, before, within, after, schedule_eq,
    Nat.le_zero.1 early, late⟩

/-- A client does not always receive each entry in one frame only. -/
theorem entries_not_always_received_once :
    ¬ ∀ (watch : Watch) (hub last : Broadcaster) (schedule : List Turn),
      watch.Begins hub → (∀ turn ∈ schedule, turn.Spares watch.session.socket) →
      (watch.turns schedule).engine.scene.sink = .broadcaster last →
      ∀ entry ∈ (watch.turns schedule).task.told,
        (last.received watch.session.socket ++ (watch.turns schedule).session.sent).countP
          (tells entry) ≤ 1 := by
  intro once
  have begins := begins_unknownWatch .null
  have spares : ∀ turn ∈ [Turn.run, .session, .run, .run, .session], turn.Spares 0 := by
    simp [Turn.Spares]
  obtain ⟨last, sink_eq⟩ := begins.exists_hub [.run, .session, .run, .run, .session] spares
  have claimed := once (unknownWatch .null) {} last _ begins spares sink_eq
  generalize ended_eq : (unknownWatch .null).turns [.run, .session, .run, .run, .session] = ended
    at sink_eq claimed
  have twice : ended.task.told.map (fun entry =>
      ((ended.engine.scene.sink.hub?.getD {}).received 0 ++ ended.session.sent).countP
        (tells entry)) = [2] := by
    subst ended_eq
    decide +kernel
  obtain ⟨entry, told_eq, counted⟩ := List.map_eq_singleton_iff.1 twice
  have claimed := claimed entry (List.mem_of_mem_head? (by rw [told_eq]; rfl))
  rw [sink_eq] at counted
  exact absurd (counted.symm.trans_le claimed) (by decide)

end Watch

end Workflow.Live
