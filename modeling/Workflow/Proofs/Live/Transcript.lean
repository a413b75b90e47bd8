import Workflow.Client.Basic
import Workflow.Live.Session
import Workflow.Proofs.Engine.LogHistory
import Workflow.Proofs.Live.Recording
import Workflow.Proofs.Value.Nesting
import Workflow.Proofs.Value.ReadBack

/-!
# What the demonstration client prints

A session alone with an engine greets the client, replays the entries of a run and tells its status.
The demonstration client reads the texts of these frames to the last, and prints each of them.
-/

namespace Workflow

/-! ## The stream of a session -/

namespace Live.Session

/-- The frame of an entry that can be written. -/
def frameOf (entry : Entry) : Value := .obj (("type", .str "log") :: entry.toObject)

/-- An entry can be sent: it can be written, and its frame has a text. -/
def CanSend (entry : Entry) : Prop :=
  entry.fits = true ∧ ∃ text, frameText (frameOf entry) = .ok text

/-- The frames that tell of a run: a greeting, its entries and its status. -/
def stream (run : Run) (id : String) (entries : List Entry) : List Value :=
  connectedFrame id :: entries.map frameOf ++ [Broadcaster.statusFrame id run.status.name]

variable {engine : Engine} {session : Session} {run : Run} {entries : List Entry}

theorem advanceBy_succ (more : Nat) (engine : Engine) (session : Session) :
    session.advanceBy (more + 1) engine =
      (session.advance engine).2.advanceBy more (session.advance engine).1 :=
  rfl

theorem advanceBy_listening (listens : session.stage = .listening) (more : Nat) :
    session.advanceBy more engine = (engine, session) := by
  induction more with
  | zero => rfl
  | succ more ih =>
      have advance_eq : session.advance engine = (engine, session) := by
        rw [advance, listens]
      rw [advanceBy_succ, advance_eq]
      exact ih

/-- A session replays the entries that are left, and then tells the status. -/
theorem advanceBy_replaying (recorded_eq : recorded engine session.executionId = entries)
    (known : engine.run? session.executionId = some run)
    (sendable : ∀ entry ∈ entries, CanSend entry) {position : Nat} {rest : List Entry}
    (left : entries.drop position = rest)
    (stage_eq : session.stage = .replaying position entries.length) (more : Nat) :
    session.advanceBy (rest.length + 1 + more) engine =
      (engine,
        { session with
          stage := .listening
          sent := session.sent ++ rest.map frameOf ++
            [Broadcaster.statusFrame session.executionId run.status.name] }) := by
  induction rest generalizing session position with
  | nil =>
      have none_left : entries[position]? = none := by
        rw [List.getElem?_eq_none_iff, ← List.drop_eq_nil_iff]
        exact left
      have advance_eq : session.advance engine =
          (engine, session.past
            (Broadcaster.statusFrame session.executionId run.status.name) .listening) := by
        simp only [advance, stage_eq, replay, recorded_eq, List.take_length, none_left, known,
          send_statusFrame]
      rw [List.length_nil, Nat.zero_add, Nat.add_comm, advanceBy_succ, advance_eq,
        advanceBy_listening rfl, List.map_nil, List.append_nil]
      rfl
  | cons entry rest ih =>
      have found : entries[position]? = some entry := by
        rw [← List.head?_drop, left]
        rfl
      obtain ⟨fit, text, worded⟩ := sendable entry (List.mem_of_getElem? found)
      have written : Broadcaster.logFrame entry = .ok (frameOf entry) := by
        rw [Broadcaster.logFrame_eq, if_pos fit]
        rfl
      have advance_eq : session.advance engine =
          (engine, session.past (frameOf entry) (.replaying (position + 1) entries.length)) := by
        simp only [advance, stage_eq, replay, recorded_eq, List.take_length, found, written,
          send_of_text _ _ _ worded]
      have fewer : entries.drop (position + 1) = rest := by
        rw [← List.tail_drop, left]
        rfl
      have replayed := @ih (session.past (frameOf entry) (.replaying (position + 1) entries.length))
        recorded_eq known (position + 1) fewer rfl
      rw [List.length_cons, Nat.add_right_comm, advanceBy_succ, advance_eq]
      dsimp only
      rw [replayed]
      simp [past]

/-- A session alone with an engine streams a run whose entries can all be sent. -/
theorem advanceBy_stream {hub : Broadcaster} {id : String}
    (sink_eq : engine.scene.sink = .broadcaster hub) (known : engine.run? id = some run)
    (sendable : ∀ entry ∈ hub.entriesOf id, CanSend entry) (socket : SocketId) (more : Nat) :
    (Session.advanceBy ((hub.entriesOf id).length + 2 + more) engine
        { executionId := id, socket }).2 =
      { executionId := id, socket, stage := .listening,
        sent := stream run id (hub.entriesOf id) } := by
  let joined := engine.withHub (·.add id socket)
  let greeted : Session :=
    { executionId := id, socket, stage := .greeted, sent := [connectedFrame id] }
  have recorded_eq : recorded joined id = hub.entriesOf id := by
    simp only [recorded, joined, Engine.withHub_eq sink_eq]
    rfl
  have joined_known : joined.run? id = some run := by
    simp only [joined, Engine.withHub_eq sink_eq]
    exact known
  -- The turn that begins the replay is the first turn of the replay.
  have begun : greeted.advance joined = Session.advance joined
      { greeted with stage := .replaying 0 (hub.entriesOf id).length } := by
    simp only [advance, greeted, joined_known, recorded_eq]
    rfl
  have replayed : greeted.advanceBy ((hub.entriesOf id).length + 1 + more) joined =
      (joined, { greeted with stage := .listening, sent := stream run id (hub.entriesOf id) }) := by
    rw [Nat.add_right_comm, advanceBy_succ, begun, ← advanceBy_succ, Nat.add_right_comm]
    exact @advanceBy_replaying joined
      { greeted with stage := .replaying 0 (hub.entriesOf id).length } run (hub.entriesOf id)
      recorded_eq joined_known sendable 0 (hub.entriesOf id) rfl rfl more
  rw [Nat.add_right_comm, advanceBy_succ, Nat.add_right_comm]
  exact congrArg Prod.snd replayed

end Live.Session

/-! ## The texts of the stream -/

namespace Entry

/-- Whether no integer in an entry has too many digits. -/
def integersFit (entry : Entry) : Bool :=
  !Number.tooLong entry.index && Object.integersFit entry.fields &&
    Object.integersFit entry.environment && entry.output.integersFit &&
    Object.integersFit (entry.error.getD [])

variable {entry : Entry}

/-- JSON carries the frame of an entry that an engine made, if no integer has too many digits. -/
theorem isPortable_frameOf (made : entry.IsMade) (short : entry.integersFit = true) :
    (Live.Session.frameOf entry).IsPortable := by
  simp only [integersFit, Bool.and_eq_true, Bool.not_eq_true'] at short
  obtain ⟨⟨⟨⟨index, fields⟩, environment⟩, output⟩, error⟩ := short
  refine .obj rfl ?_
  simp only [toObject, List.forall_mem_cons]
  refine ⟨.str _, .int index, .str _, .str _, .str _, Value.isPortable_strict _ fields,
    Value.isPortable_strict _ environment, Value.isPortable_strict _ output, ?_, ?_, .str _, nofun⟩
  · cases error_eq : entry.error with
    | none => exact .null
    | some report =>
        rw [error_eq] at error
        exact Value.isPortable_strict _ error
  · cases duration_eq : entry.duration with
    | none => exact .null
    | some elapsed => exact .float (made.duration elapsed duration_eq)

/-- The frame of an entry that can be written is not high. -/
theorem height_frameOf_le (fit : entry.fits = true) :
    (Live.Session.frameOf entry).height ≤ 2 + Value.maxHeight := by
  simp only [fits, Object.fits, Value.fits, Bool.and_eq_true, decide_eq_true_eq] at fit
  obtain ⟨⟨⟨fields, environment⟩, output⟩, error⟩ := fit
  have fields_le := Value.height_strict_le (.obj entry.fields)
  have environment_le := Value.height_strict_le (.obj entry.environment)
  have output_le := Value.height_strict_le entry.output
  have error_le : ((entry.error.map fun error => Value.strict (.obj error)).getD .null).height ≤
      1 + Value.maxHeight := by
    cases error_eq : entry.error with
    | none => exact Nat.le_add_right _ _
    | some report =>
        rw [error_eq] at error
        exact Nat.le_trans (Value.height_strict_le (.obj report)) (Nat.add_le_add_left error 1)
  have duration_le : ((entry.duration.map Value.float).getD .null).height = 1 := by
    cases entry.duration <;> rfl
  simp only [Live.Session.frameOf, toObject, Value.height, Value.fieldsHeight] at *
  omega

end Entry

namespace Live

/-- A text is a JSON text of a frame. -/
def IsTextOf (text : String) (frame : Value) : Prop := Json.read text = .ok frame

variable {run : Run} {entries : List Entry}

/-- JSON carries every frame of the stream of a run whose entries are made and can be written, if no
integer in them has too many digits; and no frame is high. -/
theorem isPortable_stream (made : ∀ entry ∈ entries, entry.IsMade)
    (writable : ∀ entry ∈ entries, entry.fits = true ∧ entry.integersFit = true) (id : String) :
    ∀ frame ∈ Session.stream run id entries,
      frame.IsPortable ∧ frame.height ≤ 2 + Value.maxHeight := by
  intro frame member
  simp only [Session.stream, List.cons_append, List.mem_cons, List.mem_append, List.mem_map,
    List.not_mem_nil, or_false] at member
  rcases member with rfl | ⟨entry, among, rfl⟩ | rfl
  · refine ⟨.obj rfl ?_, show 2 ≤ 2 + Value.maxHeight by decide⟩
    simp [Value.IsPortable.str]
  · obtain ⟨fit, short⟩ := writable entry among
    exact ⟨Entry.isPortable_frameOf (made entry among) short, Entry.height_frameOf_le fit⟩
  · refine ⟨.obj rfl ?_, show 2 ≤ 2 + Value.maxHeight by decide⟩
    simp [Value.IsPortable.str]

/-- A frame that JSON carries and that is not high has a text, which is read as it. -/
theorem exists_text {frame : Value} (portable : frame.IsPortable)
    (low : frame.height ≤ 2 + Value.maxHeight) :
    ∃ text, frameText frame = .ok text ∧ IsTextOf text frame := by
  have nesting := Nat.le_trans (Value.nesting_le_height frame) low
  exact Json.exists_read_eq Json.isFaithful_plain portable (Nat.le_trans nesting (by decide))
    (Nat.le_trans nesting (by decide))

theorem exists_texts {frames : List Value}
    (carried : ∀ frame ∈ frames, frame.IsPortable ∧ frame.height ≤ 2 + Value.maxHeight) :
    ∃ texts, frames.mapM frameText = .ok texts ∧ List.Forall₂ IsTextOf texts frames := by
  induction frames with
  | nil => exact ⟨[], rfl, .nil⟩
  | cons frame rest ih =>
      obtain ⟨⟨portable, low⟩, later⟩ := List.forall_mem_cons.1 carried
      obtain ⟨text, written, read⟩ := exists_text portable low
      obtain ⟨texts, all_written, all_read⟩ := ih later
      refine ⟨text :: texts, ?_, .cons read all_read⟩
      rw [List.mapM_cons, written, Outcome.ok_bind, all_written, Outcome.ok_bind]
      rfl

/-- So an entry that is made and can be written is sent, if no integer in it has too many digits. -/
theorem canSend {entry : Entry} (made : entry.IsMade) (fit : entry.fits = true)
    (short : entry.integersFit = true) : Session.CanSend entry := by
  obtain ⟨text, written, -⟩ :=
    exists_text (Entry.isPortable_frameOf made short) (Entry.height_frameOf_le fit)
  exact ⟨fit, text, written⟩

end Live

/-! ## What is printed -/

/-- The mark that a phase is printed with. -/
def Phase.mark : Phase → String
  | .started => "->"
  | .finished => "ok"
  | .error => "!!"

namespace Entry

/-- The line that tells of an entry. -/
def line (entry : Entry) : String :=
  s!"[{entry.phase.mark}] step {Number.intText entry.index} {entry.kind}" ++
    match entry.duration with
    | none => ""
    | some duration => " (" ++ duration.text ++ " ms)"

/-- Lines tell of an entry: one, and of an error one more with its message. -/
inductive IsPrintedAs (entry : Entry) : List String → Prop where
  | event (fine : entry.phase ≠ .error) : IsPrintedAs entry [entry.line]
  | failure {report : Report} {message : String} (failed : entry.phase = .error)
      (error_eq : entry.error = some report.toObject)
      (message_eq : report.message.strict.text = .ok message) :
      IsPrintedAs entry [entry.line, "     error: " ++ message]

end Entry

namespace Client

variable {α β : Type} {progress next : Progress}

theorem run_bind_of_ok {work : Work α} {value : α} (after : α → Work β)
    (done : work.run.run progress = (.ok value, next)) :
    (work >>= after).run.run progress = (after value).run.run next := by
  rw [ExceptT.run_bind, StateT.run_bind, done]
  rfl

theorem run_print (text : String) :
    (print text).run.run progress =
      (.ok (), { progress with printed := progress.printed ++ [text] }) :=
  rfl

theorem run_attempt {result : Except Fault α} {value : α} (result_eq : result = .ok value) :
    (attempt result).run.run progress = (.ok value, progress) := by
  rw [result_eq]
  rfl

theorem marker_name (phase : Phase) : marker (.str phase.name) = .ok phase.mark := by
  cases phase <;> rfl

/-- The line of an entry is printed for its frame. -/
theorem logLine_frame {entry : Entry} (short : Number.tooLong entry.index = false) :
    logLine (("type", .str "log") :: entry.toObject) = .ok entry.line := by
  have phase_eq : fieldOf (.obj (("type", .str "log") :: entry.toObject)) "phase" =
      .ok (.str entry.phase.name) := rfl
  have index_eq : fieldText (.obj (("type", .str "log") :: entry.toObject)) "stepIndex" =
      .ok (Number.intText entry.index) := by
    have found : fieldOf (.obj (("type", .str "log") :: entry.toObject)) "stepIndex" =
        .ok (.int entry.index) := rfl
    rw [fieldText, found, Outcome.ok_bind, Value.text_int, Value.integerText, short]
    rfl
  have kind_eq : fieldText (.obj (("type", .str "log") :: entry.toObject)) "stepKind" =
      .ok entry.kind := rfl
  have duration_eq : Value.field (("type", .str "log") :: entry.toObject) "durationMs" =
      (entry.duration.map Value.float).getD .null := rfl
  simp only [logLine, phase_eq, index_eq, kind_eq, duration_eq, marker_name, Outcome.ok_bind]
  rw [Entry.line]
  cases entry.duration with
  | none =>
      exact congrArg Except.ok (String.append_empty).symm
  | some duration =>
      refine congrArg Except.ok ?_
      simp only [String.append_assoc]

/-- On the wire, a report is an object that has its message. -/
theorem exists_strict_report (report : Report) :
    ∃ rest : Object, Value.strict (.obj report.toObject) =
      .obj (("type", .str report.kind.name) :: ("message", report.message.strict) :: rest) := by
  rw [Report.toObject, Value.strict]
  split
  · exact ⟨[], rfl⟩
  · exact ⟨[("details", (Value.obj report.details).strict)], rfl⟩

/-- A log frame is printed as the lines that tell of its entry. -/
theorem run_printLog {entry : Entry} (made : entry.IsMade)
    (quotable : (Live.Session.frameOf entry).IsQuotable) :
    ∃ lines, entry.IsPrintedAs lines ∧
      (printLog (("type", .str "log") :: entry.toObject)).run.run progress =
        (.ok (), { progress with printed := progress.printed ++ lines }) := by
  have parts := Value.isQuotable_obj.1 quotable
  have short : Number.tooLong entry.index = false :=
    Value.isQuotable_int.1 (parts ("stepIndex", .int entry.index) (by simp [Entry.toObject])).2
  have line_eq := logLine_frame short
  let error := (entry.error.map fun error => Value.strict (.obj error)).getD .null
  have error_eq : Value.field (("type", .str "log") :: entry.toObject) "error" = error := rfl
  have among : (Name.text "error", error) ∈ (("type", .str "log") :: entry.toObject : Object) := by
    simp [Entry.toObject, error]
  rw [printLog, run_bind_of_ok _ (run_attempt line_eq), run_bind_of_ok _ (run_print _)]
  by_cases failed : entry.phase = .error
  · obtain ⟨report, reported⟩ := made.exists_report failed
    obtain ⟨rest, report_eq⟩ := exists_strict_report report
    have wire_eq : error = .obj (("type", .str report.kind.name) ::
        ("message", report.message.strict) :: rest) := by
      simp only [error, reported]
      exact report_eq
    have wire_quotable := (parts _ among).2
    rw [wire_eq] at error_eq wire_quotable
    obtain ⟨message, message_eq⟩ := ((Value.isQuotable_obj.1 wire_quotable
      ("message", report.message.strict) (by simp)).2).exists_text
    have text_eq : fieldText (.obj (("type", .str report.kind.name) ::
        ("message", report.message.strict) :: rest)) "message" = .ok message := message_eq
    have given : (Value.obj (("type", .str report.kind.name) ::
        ("message", report.message.strict) :: rest)).isTruthy = true := rfl
    refine ⟨_, .failure failed reported message_eq, ?_⟩
    simp only [error_eq]
    rw [if_pos given, run_bind_of_ok _ (run_attempt text_eq), run_print, List.append_assoc]
    rfl
  · have wire_eq : error = .null := by
      simp only [error, made.error_eq_none failed]
      rfl
    rw [wire_eq] at error_eq
    refine ⟨_, .event failed, ?_⟩
    simp only [error_eq]
    rfl

theorem run_printFrame_connectedFrame (id : String) :
    (printFrame (Live.connectedFrame id)).run.run progress =
      (.ok false,
        { progress with printed := progress.printed ++ ["Connected to execution " ++ id] }) :=
  rfl

theorem run_printFrame_statusFrame (id status : String) :
    (printFrame (Broadcaster.statusFrame id status)).run.run progress =
      (.ok true,
        { progress with printed := progress.printed ++ ["Execution status: " ++ status] }) :=
  rfl

/-- A frame that is read is printed, and the next is read unless the stream ends with it. -/
theorem run_readFrames_cons {text : String} {rest : List String} {frame : Value} {isLast : Bool}
    (read : Json.read text = .ok frame)
    (printed : (printFrame frame).run.run { progress with unread := rest } = (.ok isLast, next)) :
    (readFrames (text :: rest)).run.run progress =
      (if isLast then pure () else readFrames rest : Work Unit).run.run next := by
  have parsed : (Json.read text).mapError (·.fault) = .ok frame := by
    rw [read]
    rfl
  have taken :
      (modify fun progress => { progress with unread := rest } : Work Unit).run.run progress =
        (.ok (), { progress with unread := rest }) := rfl
  rw [readFrames, run_bind_of_ok _ taken, run_bind_of_ok _ (run_attempt parsed),
    run_bind_of_ok _ printed]

/-- The frames of entries are printed as the lines that tell of them. -/
theorem run_readFrames_logs {entries : List Entry} (made : ∀ entry ∈ entries, entry.IsMade)
    {texts : List String} {frames : List Value}
    (read : List.Forall₂ Live.IsTextOf texts (entries.map Live.Session.frameOf ++ frames)) :
    ∃ lines rest last, List.Forall₂ Entry.IsPrintedAs entries lines ∧
      List.Forall₂ Live.IsTextOf rest frames ∧
      (readFrames texts).run.run progress = (readFrames rest).run.run last ∧
      last.printed = progress.printed ++ lines.flatten ∧ last.calls = progress.calls := by
  induction entries generalizing progress texts with
  | nil => exact ⟨[], texts, progress, .nil, read, rfl, (List.append_nil _).symm, rfl⟩
  | cons entry entries ih =>
      obtain ⟨here_made, later_made⟩ := List.forall_mem_cons.1 made
      obtain ⟨text, later, here, others, rfl⟩ := List.forall₂_cons_right_iff.1 read
      obtain ⟨lines, told, printed⟩ :=
        @run_printLog { progress with unread := later } entry here_made (Json.isQuotable_read here)
      have shown : (printFrame (Live.Session.frameOf entry)).run.run
          { progress with unread := later } = (.ok false, _) := run_bind_of_ok _ printed
      obtain ⟨more, rest, last, all_told, left, read_eq, printed_eq, calls_eq⟩ :=
        @ih { progress with printed := progress.printed ++ lines, unread := later } later_made
          later others
      refine ⟨lines :: more, rest, last, .cons told all_told, left, ?_, ?_, calls_eq⟩
      · rw [run_readFrames_cons here shown]
        exact read_eq
      · rw [printed_eq, List.flatten_cons, List.append_assoc]

/-- The client reads the stream of a run to the end. -/
theorem perform_watch_stream {entries : List Entry} (made : ∀ entry ∈ entries, entry.IsMade)
    {run : Run} {id : String} {texts : List String}
    (read : List.Forall₂ Live.IsTextOf texts (Live.Session.stream run id entries)) :
    ∃ lines, List.Forall₂ Entry.IsPrintedAs entries lines ∧ ∀ response : Response,
      perform { response, frames := texts } (watch (.str id)) =
        (.ok (), {
          printed :=
            ["Connecting to WebSocket: ws://localhost:8000/api/v1/ws/executions/" ++ id,
              "Connected to execution " ++ id] ++
            lines.flatten ++ ["Execution status: " ++ run.status.name]
          calls := [.socket ("ws://localhost:8000/api/v1/ws/executions/" ++ id)]
          unread := [] }) := by
  let uri := "ws://localhost:8000/api/v1/ws/executions/" ++ id
  obtain ⟨greeting, later, greeted, logged, rfl⟩ := List.forall₂_cons_right_iff.1 read
  obtain ⟨lines, rest, last, told, left, read_eq, printed_eq, calls_eq⟩ :=
    @run_readFrames_logs
      { printed := ["Connecting to WebSocket: " ++ uri, "Connected to execution " ++ id]
        calls := [.socket uri]
        unread := later } entries made later [Broadcaster.statusFrame id run.status.name] logged
  obtain ⟨ending, nothing, ended, none, rfl⟩ := List.forall₂_cons_right_iff.1 left
  obtain rfl := List.forall₂_nil_right_iff.1 none
  refine ⟨lines, told, fun response => ?_⟩
  have connecting : perform { response, frames := greeting :: later } (watch (.str id)) =
      (readFrames (greeting :: later)).run.run
        { printed := ["Connecting to WebSocket: " ++ uri]
          calls := [.socket uri]
          unread := greeting :: later } := rfl
  rw [connecting, run_readFrames_cons greeted (run_printFrame_connectedFrame id)]
  refine (read_eq.trans (run_readFrames_cons ended (run_printFrame_statusFrame id _))).trans ?_
  rw [printed_eq, calls_eq]
  rfl

end Client

namespace Live

variable {start engine : Engine} {first : Broadcaster} {id : String} {run : Run}

/-- A session alone with an engine streams a run that the engine keeps, if all entries of the run can
be written and hold no integer of too many digits.  The demonstration client reads the texts of the
stream to the end: it prints the greeting, every entry with the message of every error, and the
status. -/
theorem client_prints_stream (led : LeadsTo start engine)
    (begun : start.scene.sink = .broadcaster first) (silent : first.entries = [])
    (known : engine.run? id = some run) :
    ∃ hub, engine.scene.sink = .broadcaster hub ∧
      ((∀ entry ∈ hub.entriesOf id, entry.fits = true ∧ entry.integersFit = true) →
        ∀ (socket : SocketId) (more : Nat),
          let session := (Session.advanceBy ((hub.entriesOf id).length + 2 + more) engine
            { executionId := id, socket }).2
          session.stage = .listening ∧
          session.sent = Session.stream run id (hub.entriesOf id) ∧
          ∃ texts lines, session.sent.mapM frameText = .ok texts ∧
            List.Forall₂ Entry.IsPrintedAs (hub.entriesOf id) lines ∧
            ∀ response : Client.Response,
              Client.perform { response, frames := texts } (Client.watch (.str id)) =
                (.ok (), {
                  printed :=
                    ["Connecting to WebSocket: ws://localhost:8000/api/v1/ws/executions/" ++ id,
                      "Connected to execution " ++ id] ++
                    lines.flatten ++ ["Execution status: " ++ run.status.name]
                  calls := [.socket ("ws://localhost:8000/api/v1/ws/executions/" ++ id)]
                  unread := [] })) := by
  obtain ⟨hub, sink_eq, made⟩ := led.records ⟨first, begun, .of_entries_eq_nil silent⟩
  refine ⟨hub, sink_eq, fun writable socket more => ?_⟩
  have sendable : ∀ entry ∈ hub.entriesOf id, Session.CanSend entry := fun entry among =>
    canSend (made id entry among) (writable entry among).1 (writable entry among).2
  dsimp only
  rw [Session.advanceBy_stream sink_eq known sendable socket more]
  obtain ⟨texts, written, read⟩ := exists_texts (@isPortable_stream run _ (made id) writable id)
  obtain ⟨lines, told, printed⟩ := Client.perform_watch_stream (made id) read
  exact ⟨rfl, rfl, texts, lines, written, told, printed⟩

/-- An engine that has run one step of an unknown kind. -/
def unknownRun (value : Value) : Engine :=
  (Engine.silentEngine.runSteps [Engine.unknownStep value] (.obj []) .null none).2

theorem leadsTo_unknownRun (value : Value) : LeadsTo Engine.silentEngine (unknownRun value) :=
  .perform .start (.runSteps [Engine.unknownStep value] (.obj []) .null none)

/-- The entry that tells how the run failed. -/
def unknownFailure (now : Moment) : Entry :=
  { Progress.entry { environment := [("input", .obj [])] } 0 (Engine.unknownStep .null) .error
      now with
    error := some (StepError.unknownKind "teleport" Registry.standard.kinds).report.toObject
    duration := some Execution.elapsed }

/-- What the engine keeps of its run. -/
theorem entriesOf_unknownRun :
    ((unknownRun .null).scene.sink.hub?.getD {}).entriesOf (Identifier.grouped 1) =
      [Progress.entry { environment := [("input", .obj [])] } 0 (Engine.unknownStep .null) .started
          (unknownRun .null).scene.world.now,
        unknownFailure (unknownRun .null).scene.world.now] := by
  with_unfolding_all rfl

/-- The client prints both entries of a run that failed in its only step. -/
theorem client_prints_stream_unknownKind :
    let engine := unknownRun .null
    let id := Identifier.grouped 1
    let session := (Session.advanceBy 4 engine { executionId := id, socket := 0 }).2
    ∃ hub texts lines, engine.scene.sink = .broadcaster hub ∧
      (hub.entriesOf id).map Entry.phase = [.started, .error] ∧
      session.sent.mapM frameText = .ok texts ∧
      List.Forall₂ Entry.IsPrintedAs (hub.entriesOf id) lines ∧
      Client.perform { response := ⟨200, ""⟩, frames := texts } (Client.watch (.str id)) =
        (.ok (), {
          printed :=
            ["Connecting to WebSocket: ws://localhost:8000/api/v1/ws/executions/" ++ id,
              "Connected to execution " ++ id] ++ lines.flatten ++ ["Execution status: failed"]
          calls := [.socket ("ws://localhost:8000/api/v1/ws/executions/" ++ id)]
          unread := [] }) := by
  dsimp only
  obtain ⟨run, known, status_eq⟩ : ∃ run, (unknownRun .null).run? (Identifier.grouped 1) = some run ∧
      run.status.name = "failed" :=
    ⟨_, by with_unfolding_all rfl, by with_unfolding_all rfl⟩
  obtain ⟨hub, sink_eq, streams⟩ := client_prints_stream (leadsTo_unknownRun .null) rfl rfl known
  have entries_eq := entriesOf_unknownRun
  rw [sink_eq] at entries_eq
  change hub.entriesOf (Identifier.grouped 1) = _ at entries_eq
  have writable : ∀ entry ∈ hub.entriesOf (Identifier.grouped 1),
      entry.fits = true ∧ entry.integersFit = true := by
    rw [entries_eq]
    exact List.forall_mem_cons.2 ⟨⟨rfl, by decide +kernel⟩,
      List.forall_mem_singleton.2 ⟨rfl, by decide +kernel⟩⟩
  have count : (hub.entriesOf (Identifier.grouped 1)).length = 2 := congrArg List.length entries_eq
  obtain ⟨-, -, texts, lines, written, told, printed⟩ := streams writable 0 0
  simp only [count, Nat.reduceAdd] at written
  rw [status_eq] at printed
  exact ⟨hub, texts, lines, sink_eq, congrArg (List.map Entry.phase) entries_eq, written, told,
    printed _⟩

/-- A session that has sent one frame when it should have sent all has not sent the stream. -/
theorem exists_sent_ne_stream {value : Value}
    (kept : ((unknownRun value).run? (Identifier.grouped 1)).isSome = true)
    (two : (((unknownRun value).scene.sink.hub?.getD {}).entriesOf (Identifier.grouped 1)).length = 2)
    (one : (Session.advanceBy 4 (unknownRun value)
      { executionId := Identifier.grouped 1, socket := 0 }).2.sent.length = 1) :
    ∃ hub run, (unknownRun value).scene.sink = .broadcaster hub ∧
      (unknownRun value).run? (Identifier.grouped 1) = some run ∧
      (Session.advanceBy ((hub.entriesOf (Identifier.grouped 1)).length + 2) (unknownRun value)
          { executionId := Identifier.grouped 1, socket := 0 }).2.sent ≠
        Session.stream run (Identifier.grouped 1) (hub.entriesOf (Identifier.grouped 1)) := by
  obtain ⟨run, known⟩ := Option.isSome_iff_exists.1 kept
  obtain ⟨hub, sink_eq, -⟩ :=
    (leadsTo_unknownRun value).records ⟨{}, rfl, .of_entries_eq_nil rfl⟩
  refine ⟨hub, run, sink_eq, known, fun sent => ?_⟩
  rw [sink_eq] at two
  have count : (hub.entriesOf (Identifier.grouped 1)).length = 2 := two
  have whole := congrArg List.length sent
  rw [count, one] at whole
  simp [Session.stream, count] at whole

/-- The stream of a run does not always have its entries and its status, not even if no entry is too
high. -/
theorem stream_not_always_sent :
    (¬ ∀ (start engine : Engine) (first hub : Broadcaster) (id : String) (run : Run)
      (socket : SocketId),
      LeadsTo start engine → start.scene.sink = .broadcaster first → first.entries = [] →
      engine.run? id = some run → engine.scene.sink = .broadcaster hub →
      (Session.advanceBy ((hub.entriesOf id).length + 2) engine
          { executionId := id, socket }).2.sent =
        Session.stream run id (hub.entriesOf id)) ∧
    ¬ ∀ (start engine : Engine) (first hub : Broadcaster) (id : String) (run : Run)
      (socket : SocketId),
      LeadsTo start engine → start.scene.sink = .broadcaster first → first.entries = [] →
      engine.run? id = some run → engine.scene.sink = .broadcaster hub →
      (∀ entry ∈ hub.entriesOf id, entry.fits = true) →
      (Session.advanceBy ((hub.entriesOf id).length + 2) engine
          { executionId := id, socket }).2.sent =
        Session.stream run id (hub.entriesOf id) := by
  constructor
  · intro sent
    obtain ⟨hub, run, sink_eq, known, other⟩ := @exists_sent_ne_stream (nested 300)
      (by decide +kernel) (by decide +kernel) (by decide +kernel)
    exact other (sent Engine.silentEngine _ {} hub _ run 0 (leadsTo_unknownRun _) rfl rfl known
      sink_eq)
  · intro sent
    obtain ⟨hub, run, sink_eq, known, other⟩ := @exists_sent_ne_stream (.int (10 ^ 4300))
      (by decide +kernel) (by decide +kernel) (by decide +kernel)
    have fits : (((unknownRun (.int (10 ^ 4300))).scene.sink.hub?.getD {}).entriesOf
        (Identifier.grouped 1)).all Entry.fits = true := by
      decide +kernel
    rw [sink_eq] at fits
    exact other (sent Engine.silentEngine _ {} hub _ run 0 (leadsTo_unknownRun _) rfl rfl known
      sink_eq (List.all_eq_true.1 fits))

end Live

end Workflow
