import Workflow.Proofs.Live.Delivery

/-!
# Texts from the client

A session that listens answers the texts of its client in order, whatever else happens meanwhile, up
to the first text that it cannot make anything of: a JSON value that is no object, or a text that
stands for no value although it may be JSON.
-/

namespace Workflow.Live

/-- What a text from the client is. -/
inductive Heard where
  /-- A JSON object whose type is that of a ping. -/
  | ping
  /-- Any other JSON object. -/
  | object
  /-- A JSON value of another type. -/
  | other (type : ValueType)
  /-- No JSON. -/
  | garbled
  /-- A text with too long an integer, or with too many arrays and objects inside one another. -/
  | unreadable (fault : Fault)
deriving DecidableEq

namespace Heard

/-- What a text is. -/
def ofText (text : String) : Heard :=
  match Json.read text with
  | .ok (.obj fields) =>
    match Value.field fields "type" with
    | .str word => if word = "ping" then .ping else .object
    | _ => .object
  | .ok value => .other value.type
  | .error error =>
    match error.problem with
    | .integerTooLong _ | .tooDeep _ => .unreadable error.fault
    | _ => .garbled

/-- The frame that answers a text. -/
def reply? : Heard → Option Value
  | .ping => some pongFrame
  | .garbled => some invalidFrame
  | .object | .other _ | .unreadable _ => none

/-- The fault by which a text ends the session. -/
def fault? : Heard → Option Fault
  | .other type => some (.noOperation type "get")
  | .unreadable fault => some fault
  | .ping | .object | .garbled => none

end Heard

namespace Session

/-- A session answers a text, or ends, by what the text is. -/
theorem answer_eq (text : String) :
    answer text =
      match (Heard.ofText text).fault? with
      | some fault => .error fault
      | none => .ok (Heard.ofText text).reply? := by
  unfold answer Heard.ofText
  cases Json.read text with
  | error error =>
      obtain ⟨problem, offset, place⟩ := error
      cases problem <;> rfl
  | ok value =>
      cases value with
      | obj fields =>
          dsimp only
          cases Value.field fields "type" with
          | str word =>
              by_cases same : word = "ping" <;> simp [Value.same, same, Heard.fault?, Heard.reply?]
          | _ => rfl
      | _ => rfl

/-- A session that has heard a text. -/
def hear (session : Session) (heard : Heard) : Session :=
  match heard.fault? with
  | some fault => { session with stage := .over (some fault) }
  | none => { session with sent := session.sent ++ heard.reply?.toList }

variable {session : Session} {heard : Heard}

theorem hear_of_fault {fault : Fault} (faulty : heard.fault? = some fault) :
    session.hear heard = { session with stage := .over (some fault) } := by
  rw [hear, faulty]

theorem hear_of_no_fault (faultless : heard.fault? = none) :
    session.hear heard = { session with sent := session.sent ++ heard.reply?.toList } := by
  rw [hear, faultless]

theorem receive_of_listening (listens : session.stage = .listening) (engine : Engine)
    (text : String) : (session.receive engine text).2 = session.hear (.ofText text) := by
  have answered := answer_eq text
  rw [receive, listens, hear]
  cases faulty : (Heard.ofText text).fault? with
  | some fault =>
      rw [faulty] at answered
      simp only [answered, leave]
  | none =>
      rw [faulty] at answered
      cases replied : (Heard.ofText text).reply? with
      | some frame =>
          rw [replied] at answered
          simp only [answered, send_answer answered, past, Option.toList_some, ← listens]
      | none =>
          rw [replied] at answered
          simp [answered]

end Session

/-- The text that the client sends in a turn. -/
def Turn.text? : Turn → Option String
  | .text word => some word
  | _ => none

namespace Watch

variable {watch : Watch}

/-- A turn leaves a listening session as it is, unless it brings a text. -/
theorem session_turn (listens : watch.session.stage = .listening) (turn : Turn) :
    (watch.turn turn).session =
      match turn.text? with
      | some text => watch.session.hear (.ofText text)
      | none => watch.session := by
  cases turn with
  | text text => exact Session.receive_of_listening listens watch.engine text
  | session =>
      change (watch.session.advance watch.engine).2 = watch.session
      rw [Session.advance, listens]
  | _ => rfl

/-- Nothing happens to a session that is over. -/
theorem session_turns_of_over {fault : Option Fault} (ended : watch.session.stage = .over fault)
    (schedule : List Turn) : (watch.turns schedule).session = watch.session := by
  refine @turns_preserve watch (fun later => later.session = watch.session) (fun _ => True) ?_ rfl
    schedule fun _ _ => trivial
  intro later turn same _
  cases turn with
  | text text =>
      change (later.session.receive later.engine text).2 = watch.session
      rw [same, Session.receive, ended]
  | session =>
      change (later.session.advance later.engine).2 = watch.session
      rw [same, Session.advance, ended]
  | _ => exact same

/-- Whatever else happens meanwhile, a session that listens answers the texts of its client in order:
a ping with a pong, a text that is no JSON with the message that it is none, and any other JSON object
with nothing.  It listens on as long as every text is one of these.  It ends with the fault of the
first other text, a JSON value that is no object or a text that cannot be read for its size. -/
theorem answers_until_fault (listens : watch.session.stage = .listening) (schedule : List Turn) :
    let heard := (schedule.filterMap Turn.text?).map Heard.ofText
    let session := (watch.turns schedule).session
    session.sent =
        watch.session.sent ++ (heard.takeWhile (·.fault?.isNone)).filterMap Heard.reply? ∧
      session.stage =
        match heard.findSome? Heard.fault? with
        | none => .listening
        | some fault => .over (some fault) := by
  induction schedule generalizing watch with
  | nil => exact ⟨(List.append_nil _).symm, listens⟩
  | cons turn rest ih =>
      have session_eq := session_turn listens turn
      rw [turns_cons, List.filterMap_cons]
      cases said : turn.text? with
      | none =>
          rw [said] at session_eq
          have later := @ih (watch.turn turn) (session_eq ▸ listens)
          rw [session_eq] at later
          exact later
      | some text =>
          rw [said] at session_eq
          dsimp only at session_eq ⊢
          rw [List.map_cons, List.takeWhile_cons, List.findSome?_cons]
          cases faulty : (Heard.ofText text).fault? with
          | some fault =>
              rw [Session.hear_of_fault faulty] at session_eq
              have ended : (watch.turn turn).session.stage = .over (some fault) := by rw [session_eq]
              rw [session_turns_of_over ended, session_eq]
              exact ⟨(List.append_nil _).symm, rfl⟩
          | none =>
              rw [Session.hear_of_no_fault faulty] at session_eq
              have later := @ih (watch.turn turn) (by rw [session_eq]; exact listens)
              rw [session_eq] at later
              refine ⟨later.1.trans ?_, later.2⟩
              rw [Option.isNone_none, if_pos rfl, List.filterMap_cons, List.append_assoc]
              cases (Heard.ofText text).reply? <;> rfl

/-- A client of a run that has not begun is listened to after two turns. -/
theorem listening_unknownWatch :
    ((unknownWatch .null).turns [.session, .session]).session.stage = .listening := by
  with_unfolding_all rfl

/-- While the run begins, a client is answered its first texts and then ends the session by a list. -/
theorem answers_until_fault_list :
    let listening := (unknownWatch .null).turns [.session, .session]
    let later := listening.turns
      [.text "\x7b\"type\": \"ping\"\x7d", .run, .text "\x7b\x7d", .text "ping", .run, .text "[]",
        .text "\x7b\"type\": \"ping\"\x7d"]
    later.session.sent = listening.session.sent ++ [pongFrame, invalidFrame] ∧
      later.session.stage = .over (some (.noOperation .arr "get")) := by
  dsimp only
  have ping : Heard.ofText "\x7b\"type\": \"ping\"\x7d" = .ping := by decide +kernel
  have empty : Heard.ofText "\x7b\x7d" = .object := by decide +kernel
  have word : Heard.ofText "ping" = .garbled := by decide +kernel
  have list : Heard.ofText "[]" = .other .arr := by decide +kernel
  obtain ⟨sent, stage⟩ := answers_until_fault listening_unknownWatch
    [.text "\x7b\"type\": \"ping\"\x7d", .run, .text "\x7b\x7d", .text "ping", .run, .text "[]",
      .text "\x7b\"type\": \"ping\"\x7d"]
  rw [sent, stage]
  simp only [List.filterMap_cons, List.filterMap_nil, Turn.text?, List.map_cons, List.map_nil, ping,
    empty, word, list]
  exact ⟨rfl, rfl⟩

/-- A session does not always listen on and answer. -/
theorem texts_not_always_answered :
    ¬ ∀ (watch : Watch) (schedule : List Turn), watch.session.stage = .listening →
      (watch.turns schedule).session.sent = watch.session.sent ++
          ((schedule.filterMap Turn.text?).map Heard.ofText).filterMap Heard.reply? ∧
        (watch.turns schedule).session.stage = .listening := by
  intro answered
  have ended : (((unknownWatch .null).turns [.session, .session]).turns [.text "[]"]).session.stage =
      .over (some (.noOperation .arr "get")) := by
    with_unfolding_all rfl
  have listens := (answered _ [.text "[]"] listening_unknownWatch).2
  rw [ended] at listens
  cases listens

end Watch

end Workflow.Live
