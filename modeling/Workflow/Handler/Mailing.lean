import Workflow.Handler.Basic
import Workflow.Template.Resolve

/-!
# Sending mail

The mail step resolves recipient, subject and body and hands them to the transport.  Whatever keeps
the mail from being delivered is reported as a mail error.
-/

namespace Workflow

/-- The text of a failure, as it stands in a longer message. -/
def Failure.text : Failure → Except Fault String
  | .step error => error.report.message.text
  | .fault cause => .ok cause.text

/-- Whether a failure already is a mail error. -/
def Failure.isMailError : Failure → Bool
  | .step error => error.report.kind = .email
  | .fault _ => false

namespace Handler

/-- The mail with the given parts as texts. -/
def mailOf (recipient subject body : Value) : Except Fault Mail := do
  return ⟨← recipient.text, ← subject.text, ← body.text⟩

/-- The mail error that a failure of the transport becomes. -/
def undelivered (failure : Failure) : Failure :=
  if failure.isMailError then failure
  else
    match failure.text with
    | .ok reason => .step (.undelivered reason)
    | .error fault => .fault fault

/-- Hand a mail to the transport. -/
def deliver (transport : Transport) (mail : Mail) : Action Value :=
  fun world =>
    ((transport.send world.calls world.outbox mail).mapError undelivered,
      { world.tick with outbox := world.outbox ++ [mail] })

/-- The field of an answer that has to be an object. -/
def answerField (answer : Value) (name : String) : Except Fault Value :=
  match answer with
  | .obj fields => .ok (Value.field fields name)
  | other => .error (.noOperation other.type "get")

/-- What the step makes of the transport's answer. -/
def readAnswer (answer : Value) : Except Failure Value :=
  if !answer.isTruthy then .error (.step (.refused .null))
  else do
    let success ← (answerField answer "success").mapError .fault
    if success.isTruthy then
      let messageId ← (answerField answer "messageId").mapError .fault
      return .obj [("success", .bool true), ("messageId", messageId)]
    else
      let reason ← (answerField answer "error").mapError .fault
      throw (.step (.refused reason))

/-- The mail step. -/
def sendMail : Handler := ofAction fun fields environment request => do
  let recipient ← Action.ofFault (Template.resolve environment (Value.field fields "to"))
  let subject ← Action.ofFault (Template.resolve environment (Value.field fields "subject"))
  let body ← Action.ofFault (Template.resolve environment (Value.field fields "body"))
  if !recipient.isTruthy || !subject.isTruthy || !body.isTruthy then
    Action.fail .incompleteMail
  else
    match request.collaborators.transport with
    | none => Action.fail .noTransport
    | some transport =>
      let mail ← Action.ofExcept ((mailOf recipient subject body).mapError (undelivered ∘ .fault))
      let answer ← deliver transport mail
      Action.ofExcept (readAnswer answer)

end Handler

end Workflow
