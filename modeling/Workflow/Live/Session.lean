import Workflow.Engine.Basic
import Workflow.Json.Reader
import Workflow.Json.Writer

/-!
# Live sessions

A client that watches an execution over a socket.  The session registers the socket, greets the
client, replays what was recorded so far and tells the status, and then answers the client's texts
until the client leaves.

The session moves in small steps, one for each frame it waits to be sent, so that it can be
interleaved with an execution.
-/

namespace Workflow.Live

/-- Where a session stands. -/
inductive Stage where
  /-- The client is being accepted. -/
  | accepting
  /-- The socket is registered and the client greeted. -/
  | greeted
  /-- Of the `count` entries that were recorded when the replay began, those from a position on are
  still to be replayed, and then the status to be told. -/
  | replaying (position count : Nat)
  /-- The client may send texts. -/
  | listening
  /-- The session is over, with the fault that ended it if there was one. -/
  | over (fault : Option Fault)

/-- A session of one client. -/
structure Session where
  executionId : String
  socket : SocketId
  stage : Stage := .accepting
  /-- The frames sent by the session itself, in order. -/
  sent : List Value := []

/-- The frame that greets a client. -/
def connectedFrame (id : String) : Value :=
  .obj [("type", .str "connected"), ("message", .str s!"Connected to execution {id}"),
    ("run_id", .str id)]

/-- The frame that tells that an execution has not begun. -/
def waitingFrame (id : String) : Value :=
  .obj [("type", .str "waiting"), ("message", .str s!"Waiting for execution {id} to start...")]

/-- The answer to a ping. -/
def pongFrame : Value := .obj [("type", .str "pong")]

/-- The answer to a text that is no JSON. -/
def invalidFrame : Value := .obj [("type", .str "error"), ("message", .str "Invalid JSON")]

/-- The JSON text that a frame is sent as. -/
def frameText (frame : Value) : Except Fault String :=
  Json.writeWith Json.plain Json.writingDepth frame

namespace Session

/-- Leave: the socket is no longer registered. -/
def leave (engine : Engine) (session : Session) (fault : Option Fault) : Engine × Session :=
  (engine.withHub (·.remove session.executionId session.socket),
    { session with stage := .over fault })

/-- The session that has sent a frame and gone on to a stage. -/
def past (session : Session) (frame : Value) (stage : Stage) : Session :=
  { session with sent := session.sent ++ [frame], stage }

/-- Send a frame and go on to a stage.  A frame that has no text ends the session. -/
def send (engine : Engine) (session : Session) (frame : Value) (stage : Stage) : Engine × Session :=
  match frameText frame with
  | .ok _ => (engine, session.past frame stage)
  | .error cause => session.leave engine (some cause)

section

variable (engine : Engine) (session : Session) (stage : Stage)

theorem send_of_text {frame : Value} {text : String} (written : frameText frame = .ok text) :
    session.send engine frame stage = (engine, session.past frame stage) := by
  rw [send, written]

-- The frames that hold nothing but texts are always sent.

theorem send_connectedFrame (id : String) :
    session.send engine (connectedFrame id) stage = (engine, session.past (connectedFrame id) stage) :=
  rfl

theorem send_waitingFrame (id : String) :
    session.send engine (waitingFrame id) stage = (engine, session.past (waitingFrame id) stage) :=
  rfl

theorem send_statusFrame (id status : String) :
    session.send engine (Broadcaster.statusFrame id status) stage =
      (engine, session.past (Broadcaster.statusFrame id status) stage) :=
  rfl

end

/-- The entries that a session replays. -/
def recorded (engine : Engine) (id : String) : List Entry :=
  (engine.scene.sink.hub?.map (·.entriesOf id)).getD []

/-- Send the entry at a position of those to be replayed, as it is now, or the status when there is
none left.  An entry that cannot be written ends the session. -/
def replay (engine : Engine) (session : Session) (position count : Nat) : Engine × Session :=
  match ((recorded engine session.executionId).take count)[position]? with
  | some entry =>
    match Broadcaster.logFrame entry with
    | .ok frame => session.send engine frame (.replaying (position + 1) count)
    | .error cause => session.leave engine (some cause)
  | none =>
    match engine.run? session.executionId with
    | some run =>
      session.send engine (Broadcaster.statusFrame session.executionId run.status.name) .listening
    | none => (engine, { session with stage := .listening })

/-- One step of a session towards listening. -/
def advance (engine : Engine) (session : Session) : Engine × Session :=
  match session.stage with
  | .accepting =>
    session.send (engine.withHub (·.add session.executionId session.socket))
      (connectedFrame session.executionId) .greeted
  | .greeted =>
    match engine.run? session.executionId with
    | some _ => session.replay engine 0 (recorded engine session.executionId).length
    | none => session.send engine (waitingFrame session.executionId) .listening
  | .replaying position count => session.replay engine position count
  | _ => (engine, session)

/-- Advance a number of times. -/
def advanceBy : Nat → Engine → Session → Engine × Session
  | 0, engine, session => (engine, session)
  | steps + 1, engine, session =>
    let (engine, session) := session.advance engine
    advanceBy steps engine session

/-- What a listening session makes of a text from the client: the frame it answers with, nothing, or
the fault that ends it. -/
def answer (text : String) : Except Fault (Option Value) :=
  match Json.read text with
  | .error error =>
    if error.fault.kind = .malformedJson then .ok (some invalidFrame) else .error error.fault
  | .ok (.obj message) =>
    if (Value.field message "type").same (.str "ping") then .ok (some pongFrame) else .ok none
  | .ok other => .error (.noOperation other.type "get")

/-- A text is answered with one of two frames, if with any. -/
theorem eq_of_answer {text : String} {frame : Value} (answered : answer text = .ok (some frame)) :
    frame = invalidFrame ∨ frame = pongFrame := by
  unfold answer at answered
  split at answered
  · split at answered
    · exact .inl (Option.some.inj (Except.ok.inj answered)).symm
    · cases answered
  · split at answered
    · exact .inr (Option.some.inj (Except.ok.inj answered)).symm
    · cases answered
  · cases answered

theorem send_answer {text : String} {frame : Value} (answered : answer text = .ok (some frame))
    (engine : Engine) (session : Session) (stage : Stage) :
    session.send engine frame stage = (engine, session.past frame stage) := by
  rcases eq_of_answer answered with rfl | rfl <;> rfl

/-- Take a text from the client. -/
def receive (engine : Engine) (session : Session) (text : String) : Engine × Session :=
  match session.stage with
  | .listening =>
    match answer text with
    | .ok (some frame) => session.send engine frame .listening
    | .ok none => (engine, session)
    | .error fault => session.leave engine (some fault)
  | _ => (engine, session)

/-- Take texts from the client one after the other. -/
def receiveAll (engine : Engine) (session : Session) (texts : List String) : Engine × Session :=
  texts.foldl (fun state text => state.2.receive state.1 text) (engine, session)

/-- A whole session alone with the engine: connect, send texts, disconnect. -/
def run (engine : Engine) (executionId : String) (socket : SocketId) (texts : List String) :
    Engine × Session :=
  let steps := (recorded engine executionId).length + 3
  let (engine, session) := advanceBy steps engine { executionId, socket }
  let (engine, session) := session.receiveAll engine texts
  match session.stage with
  | .over _ => (engine, session)
  | _ => session.leave engine none

end Session

end Workflow.Live
