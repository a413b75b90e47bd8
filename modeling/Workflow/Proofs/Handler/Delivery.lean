import Workflow.Proofs.Handler.Wording

/-!
# Deliveries

What the mail step makes of a transport that keeps to its contract: it reports a success, refuses a
mail with a text, or raises a failure that has one.
-/

namespace Workflow

/-- A transport answers in line with its contract, and the mail is delivered or not. -/
inductive Transport.Answers : Except Failure Value → Bool → Prop
  | accepted {fields : Object} (success : Value.field fields "success" = .bool true) :
      Answers (.ok (.obj fields)) true
  | refused {fields : Object} {reason : String}
      (success : Value.field fields "success" = .bool false)
      (error : Value.field fields "error" = .str reason) : Answers (.ok (.obj fields)) false
  | raised {failure : Failure} (words : failure.HasWords) : Answers (.error failure) false

/-- Every answer of a transport is in line with its contract. -/
def Transport.Lawful (transport : Transport) : Prop :=
  ∀ call sent mail, ∃ delivered, Answers (transport.send call sent mail) delivered

namespace Handler

/-- A failure that has words becomes a mail error. -/
theorem kind_report_undelivered {failure : Failure} (words : failure.HasWords) :
    (undelivered failure).report.kind = .email := by
  obtain ⟨message, message_eq⟩ := words
  unfold undelivered
  split
  · rename_i mailError
    cases failure with
    | step error => exact of_decide_eq_true mailError
    | fault cause => cases mailError
  · cases failure with
    | step error =>
        have text_eq : (Failure.step error).text = .ok message := by
          rw [Failure.text, ← Failure.report, message_eq]
          rfl
        rw [text_eq]
        rfl
    | fault cause => rfl

/-- The mail step succeeds when the mail is delivered, and fails with a mail error otherwise. -/
theorem readAnswer_of_answers {answer : Except Failure Value} {delivered : Bool}
    (answers : Transport.Answers answer delivered) :
    if delivered then ∃ value, (answer.mapError undelivered >>= readAnswer) = .ok value
    else ∃ failure, (answer.mapError undelivered >>= readAnswer) = .error failure ∧
      failure.report.kind = .email ∧ failure.HasWords := by
  cases answers with
  | @accepted fields success =>
      rw [if_pos rfl]
      refine ⟨.obj [("success", .bool true), ("messageId", Value.field fields "messageId")], ?_⟩
      change readAnswer (.obj fields) = _
      rw [readAnswer_obj, success]
      rfl
  | @refused fields reason success error =>
      rw [if_neg Bool.false_ne_true]
      refine ⟨.step (.refused (.str reason)), ?_, rfl, refused_hasWords_iff.2 fun _ => ⟨reason, rfl⟩⟩
      change readAnswer (.obj fields) = _
      rw [readAnswer_obj, success, error]
      rfl
  | @raised failure words =>
      rw [if_neg Bool.false_ne_true]
      exact ⟨undelivered failure, rfl, kind_report_undelivered words, undelivered_hasWords words⟩

end Handler

end Workflow
