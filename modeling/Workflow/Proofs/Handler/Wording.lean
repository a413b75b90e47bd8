import Workflow.Handler.Registry
import Workflow.Proofs.Handler.Action
import Workflow.Proofs.Outcome
import Workflow.Proofs.Store.Changes

/-!
# Failures in words

An execution reports a failure by its message, which has to be a text.  When the failures of the
collaborators have one, so has every failure of a built-in handler, but for one: a transport can
refuse a mail with an error that is no text.
-/

namespace Workflow

/-! ## Words -/

/-- The message of a failure is a text. -/
def Failure.HasWords (failure : Failure) : Prop :=
  ∃ words, failure.report.message = .str words

/-- The failures of the collaborators have words. -/
structure Collaborators.Worded (collaborators : Collaborators) : Prop where
  hash : ∀ hasher ∈ collaborators.hasher, ∀ call password failure,
    hasher.hash call password = .error failure → failure.HasWords
  compare : ∀ hasher ∈ collaborators.hasher, ∀ call password stored failure,
    hasher.verify call password stored = .error failure → failure.HasWords
  verify : ∀ verifier ∈ collaborators.verifier, ∀ call token failure,
    verifier.verify call token = .error failure → failure.HasWords
  send : ∀ transport ∈ collaborators.transport, ∀ call sent mail failure,
    transport.send call sent mail = .error failure → failure.HasWords

/-- An outcome is a value, or a failure that has words. -/
def Outcome.InWords {α : Type} (outcome : Except Failure α) : Prop :=
  ∀ failure, outcome = .error failure → failure.HasWords

namespace Outcome.InWords

variable {α β : Type}

theorem ok (value : α) : InWords (.ok value) := by
  intro failure impossible
  cases impossible

theorem error {failure : Failure} (words : failure.HasWords) :
    InWords (.error failure : Except Failure α) := by
  rintro other same
  exact Except.error.inj same ▸ words

theorem fault (cause : Fault) : InWords (.error (.fault cause) : Except Failure α) :=
  .error ⟨_, rfl⟩

theorem error_iff {failure : Failure} :
    InWords (.error failure : Except Failure α) ↔ failure.HasWords :=
  ⟨fun ended => ended failure rfl, .error⟩

theorem of_error {outcome : Except Failure α} (ended : InWords outcome) (failure : Failure)
    (failed : outcome = .error failure) : InWords (.error failure : Except Failure β) :=
  .error (ended failure failed)

theorem mapError {outcome : Except Fault α} : InWords (outcome.mapError .fault) := by
  cases outcome with
  | ok value => exact .ok value
  | error cause => exact .fault cause

theorem bind {first : Except Failure α} {next : α → Except Failure β} (begun : InWords first)
    (goes : ∀ value, first = .ok value → InWords (next value)) : InWords (first >>= next) := by
  cases first with
  | ok value => exact goes value rfl
  | error failure => exact .error (begun failure rfl)

theorem map {outcome : Except Failure α} (ended : InWords outcome) (report : α → β) :
    InWords (outcome.map report) := by
  cases outcome with
  | ok value => exact .ok _
  | error failure => exact .error (ended failure rfl)

end Outcome.InWords

open Outcome (InWords)

/-! ## The store -/

namespace Store

variable {store : Store} {collection : String} {wanted : Value}

theorem documents_inWords : InWords (store.documents collection) := by
  unfold documents
  split
  · exact .ok _
  · exact .error ⟨_, rfl⟩

theorem readFields_inWords {fields : Object} {documents : List Document} :
    InWords (readFields fields documents) := by
  unfold readFields
  dsimp only
  split
  · exact .ok _
  · split
    · exact .fault _
    · exact .ok _

theorem readFilter_inWords {documents : List Document} :
    InWords (readFilter wanted documents) := by
  unfold readFilter
  split
  · exact .ok _
  · split
    · exact readFields_inWords
    · split
      · exact .ok _
      · exact .fault _

theorem findOne_inWords : InWords (store.findOne collection wanted) :=
  documents_inWords.bind fun _ _ => readFilter_inWords.bind fun _ _ => .ok _

theorem findMany_inWords : InWords (store.findMany collection wanted) :=
  documents_inWords.bind fun _ _ => readFilter_inWords.bind fun _ _ => .ok _

theorem change_inWords {α : Type}
    {act : Object → List Document → Except Fault α × List Document} :
    InWords (store.change collection wanted act).1 := by
  unfold change
  split
  · rename_i failure missing
    exact .error (documents_inWords failure missing)
  · split
    · rename_i failure unread
      exact .error (readFilter_inWords failure unread)
    · exact InWords.mapError

end Store

/-! ## The handlers -/

namespace Handler

variable (fields environment : Object) (request : Request) (world : World)

/-- A handler speaks when every failure that it replies has words. -/
def Speaks (handler : Handler) (fields environment : Object) (request : Request) (world : World) :
    Prop :=
  InWords (handler fields environment request world).result

theorem speaks_of_ends {act : Object → Object → Request → Action Value} {fields environment : Object}
    {request : Request} {world : World}
    (ends : (act fields environment request).Ends world fun outcome _ => InWords outcome) :
    (ofAction act).Speaks fields environment request world :=
  ends

/-! The failures that end an action early have words: those of a value that cannot be read always,
and those of a look at the store when all its failures do. -/

section

variable {α : Type} {world : World} {next : α → Action Value}

theorem ofFault_bind_inWords {known : Except Fault α}
    (goes : ∀ value, known = .ok value → (next value).Ends world fun outcome _ => InWords outcome) :
    (Action.ofFault known >>= next).Ends world fun outcome _ => InWords outcome :=
  .ofFault_bind goes fun cause _ => .fault cause

theorem query_bind_inWords {look : Store → Except Failure α} (looked : InWords (look world.store))
    (goes : ∀ value, (next value).Ends world fun outcome _ => InWords outcome) :
    (Action.query look >>= next).Ends world fun outcome _ => InWords outcome :=
  .query_bind (fun value _ => goes value) looked.of_error

end

theorem collectionMissing_hasWords (store : Store) (name : Value) :
    (collectionMissing store name).HasWords := by
  unfold collectionMissing
  split
  · exact ⟨_, rfl⟩
  · exact ⟨_, rfl⟩

theorem requireCollection_inWords {fields : Object} {store : Store} :
    InWords (requireCollection fields store) := by
  unfold requireCollection
  dsimp only
  split
  · exact .error (collectionMissing_hasWords store _)
  · split
    · exact .fault _
    · exact .ok _
    · exact .error (collectionMissing_hasWords store _)

theorem collectInput_speaks : collectInput.Speaks fields environment request world :=
  speaks_of_ends (ofFault_bind_inWords fun _ _ => .pure (.ok _))

theorem validateInput_speaks : validateInput.Speaks fields environment request world := by
  apply speaks_of_ends
  apply ofFault_bind_inWords
  intro found _
  split
  · exact .pure (.ok _)
  · exact .fail (.error ⟨_, rfl⟩)

theorem findDocuments_speaks : findDocuments.Speaks fields environment request world := by
  apply speaks_of_ends
  apply query_bind_inWords requireCollection_inWords
  intro collection
  apply ofFault_bind_inWords
  intro wanted _
  split
  · exact query_bind_inWords Store.findMany_inWords fun _ => .pure (.ok _)
  · exact query_bind_inWords Store.findOne_inWords fun _ => .pure (.ok _)

theorem hashPassword_inWords (worded : request.collaborators.Worded) (data : Object) :
    (hashPassword request data).Ends world fun outcome _ => InWords outcome := by
  unfold hashPassword
  dsimp only
  split
  · split
    · exact .fail (.error ⟨_, rfl⟩)
    · rename_i hasher present
      apply Action.Ends.ask_bind fun _ _ => .pure (.ok _)
      intro failure failed
      exact .error (worded.hash hasher present world.calls _ failure failed)
  · exact .pure (.ok _)

theorem announce_inWords (stored : Document) : InWords (Action.announce stored) := by
  unfold Action.announce
  split
  · exact .ok _
  · exact .fault _

theorem create_ends_inWords (collection : String) (document : Object) :
    (Action.create collection (.obj document)).Ends world fun outcome _ => InWords outcome := by
  cases found : world.store.documents collection with
  | ok documents =>
      rw [Action.Ends, Action.run_create (Store.documents_eq_ok_iff.1 found)]
      exact announce_inWords _
  | error failure =>
      change InWords (Action.create collection (.obj document) world).1
      simp only [Action.create, found]
      exact Store.documents_inWords.of_error failure found

theorem insertDocument_speaks (worded : request.collaborators.Worded) :
    insertDocument.Speaks fields environment request world := by
  apply speaks_of_ends
  apply query_bind_inWords requireCollection_inWords
  intro collection
  apply ofFault_bind_inWords
  intro data _
  split
  · exact .fail (.error ⟨_, rfl⟩)
  · split
    · apply Action.Ends.seq
      apply (hashPassword_inWords request world worded _).weaken
      intro outcome hashedWorld words
      apply And.intro _ words.of_error
      intro document _
      apply Action.Ends.seq
      apply (create_ends_inWords hashedWorld collection document).weaken
      intro stored after words
      exact ⟨fun _ _ => .pure (.ok _), words.of_error⟩
    · exact .ofExcept (.fault _)

theorem change_ends_inWords {α : Type} {collection : String} {wanted : Value}
    {act : Object → List Document → Except Fault α × List Document} {report : α → Value} :
    (Action.change (fun store => store.change collection wanted act) >>=
      fun value => pure (report value)).Ends world fun outcome _ => InWords outcome :=
  .report rfl (Store.change_inWords.map report)

theorem updateDocuments_speaks : updateDocuments.Speaks fields environment request world := by
  apply speaks_of_ends
  apply query_bind_inWords requireCollection_inWords
  intro collection
  apply ofFault_bind_inWords
  intro wanted _
  apply ofFault_bind_inWords
  intro patch _
  split
  · exact change_ends_inWords world
  · exact change_ends_inWords world

theorem deleteDocuments_speaks : deleteDocuments.Speaks fields environment request world := by
  apply speaks_of_ends
  apply query_bind_inWords requireCollection_inWords
  intro collection
  apply ofFault_bind_inWords
  intro wanted _
  split
  · exact change_ends_inWords world
  · exact change_ends_inWords world

theorem bearerToken_inWords {headers : Object} : InWords (bearerToken headers) := by
  unfold bearerToken
  dsimp only
  split
  · exact .error ⟨_, rfl⟩
  · split
    · exact .fault _
    · split
      · exact .ok _
      · exact .error ⟨_, rfl⟩

theorem authenticate_speaks (worded : request.collaborators.Worded) :
    authenticate.Speaks fields environment request world := by
  apply speaks_of_ends
  apply Action.Ends.ofExcept_bind _ bearerToken_inWords.of_error
  intro token _
  split
  · exact .fail (.error ⟨_, rfl⟩)
  · rename_i verifier present
    exact .ask (worded.verify verifier present world.calls token)

theorem logIn_speaks (worded : request.collaborators.Worded) :
    logIn.Speaks fields environment request world := by
  apply speaks_of_ends
  apply ofFault_bind_inWords
  intro email _
  apply ofFault_bind_inWords
  intro password _
  dsimp only
  split
  · exact .pure (.ok _)
  · apply query_bind_inWords InWords.mapError
    intro registered
    split
    · apply query_bind_inWords Store.findOne_inWords
      intro user
      split
      · exact .pure (.ok _)
      · unfold checkPassword
        split
        · exact .pure (.ok _)
        · rename_i hasher present
          apply Action.Ends.ask_bind fun _ _ => .pure (.ok _)
          intro failure failed
          exact .error (worded.compare hasher present world.calls _ _ failure failed)
    · exact ofFault_bind_inWords fun _ _ => .pure (.ok _)

/-! ## Mail -/

/-- An answer refuses a mail without words: it tells of no success, and of an error that is given but
is no text. -/
def IsMute : Value → Prop
  | .obj answered =>
    (Value.field answered "success").isTruthy = false ∧
      (Value.field answered "error").isTruthy = true ∧
      ∀ words, Value.field answered "error" ≠ .str words
  | _ => False

theorem refused_hasWords_iff {reason : Value} :
    Failure.HasWords (.step (.refused reason)) ↔
      (reason.isTruthy = true → ∃ words, reason = .str words) := by
  have message_eq : (Failure.step (.refused reason)).report.message =
      reason.orElse (.str "Email sending failed") := rfl
  rw [Failure.HasWords, message_eq, Value.orElse]
  split <;> simp_all

theorem readAnswer_obj (answered : Object) :
    readAnswer (.obj answered) =
      if (Value.field answered "success").isTruthy then
        .ok (.obj [("success", .bool true), ("messageId", Value.field answered "messageId")])
      else .error (.step (.refused (Value.field answered "error"))) := by
  cases answered with
  | nil => rfl
  | cons field rest =>
      have given : (Value.obj (field :: rest)).isTruthy = true := rfl
      simp only [readAnswer, given, Bool.not_true, Bool.false_eq_true, if_false, answerField]
      rfl

theorem readAnswer_inWords_of_not_obj {answer : Value} (other : ∀ fields, answer ≠ .obj fields) :
    InWords (readAnswer answer) := by
  unfold readAnswer
  split
  · exact .error ⟨_, rfl⟩
  · unfold answerField
    split
    · exact absurd rfl (other _)
    · exact .fault _

/-- Reading an answer fails without words exactly when the answer has none. -/
theorem readAnswer_mute_iff {answer : Value} : ¬ InWords (readAnswer answer) ↔ IsMute answer := by
  by_cases object : ∃ answered, answer = .obj answered
  · obtain ⟨answered, rfl⟩ := object
    rw [readAnswer_obj, IsMute]
    split
    · rename_i success
      simp only [success, Bool.true_eq_false, false_and, iff_false, Classical.not_not]
      exact .ok _
    · rename_i refused
      rw [InWords.error_iff, refused_hasWords_iff]
      simp [refused]
  · have other : ∀ fields, answer ≠ .obj fields := fun fields same => object ⟨fields, same⟩
    constructor
    · exact fun mute => absurd (readAnswer_inWords_of_not_obj other) mute
    · intro mute
      cases answer with
      | obj answered => exact absurd rfl (other answered)
      | _ => exact mute.elim

/-- A mail step hands a mail to the transport. -/
structure Sends (fields environment : Object) (request : Request) (transport : Transport)
    (mail : Mail) : Prop where
  present : request.collaborators.transport = some transport
  read : ∃ recipient subject body,
    Template.resolve environment (Value.field fields "to") = .ok recipient ∧
    Template.resolve environment (Value.field fields "subject") = .ok subject ∧
    Template.resolve environment (Value.field fields "body") = .ok body ∧
    (recipient.isTruthy && subject.isTruthy && body.isTruthy) = true ∧
    mailOf recipient subject body = .ok mail

/-- A mail that is handed to the transport stays handed, whatever the transport makes of it. -/
theorem sendMail_of_sends {transport : Transport} {mail : Mail}
    (sends : Sends fields environment request transport mail) :
    sendMail fields environment request world = {
      result := (transport.send world.calls world.outbox mail).mapError undelivered >>= readAnswer
      world := { world.tick with outbox := world.outbox ++ [mail] } } := by
  obtain ⟨present, recipient, subject, body, recipient_eq, subject_eq, body_eq, given, mail_eq⟩ :=
    sends
  have complete : ¬ (!recipient.isTruthy || !subject.isTruthy || !body.isTruthy) = true := by
    simpa [and_assoc] using given
  apply reply_of_ends
  apply Action.Ends.ofFault_ok recipient_eq
  apply Action.Ends.ofFault_ok subject_eq
  apply Action.Ends.ofFault_ok body_eq
  rw [if_neg complete, present]
  apply Action.Ends.ofExcept_ok (Outcome.mapError_eq_ok_iff.2 mail_eq)
  refine .bind rfl ?_ ?_
  · intro answer delivered
    rw [delivered]
    exact .ofExcept ⟨rfl, rfl⟩
  · intro failure undelivered
    rw [undelivered]
    exact ⟨rfl, rfl⟩

theorem result_sendMail {transport : Transport} {mail : Mail}
    (sends : Sends fields environment request transport mail) :
    (sendMail fields environment request world).result =
      ((transport.send world.calls world.outbox mail).mapError undelivered >>= readAnswer) := by
  rw [sendMail_of_sends fields environment request world sends]

theorem undelivered_hasWords {failure : Failure} (words : failure.HasWords) :
    (undelivered failure).HasWords := by
  unfold undelivered
  split
  · exact words
  · split <;> exact ⟨_, rfl⟩

theorem mailOf_inWords (recipient subject body : Value) :
    InWords ((mailOf recipient subject body).mapError (undelivered ∘ .fault)) := by
  cases mailOf recipient subject body with
  | ok mail => exact .ok mail
  | error cause => exact .error (undelivered_hasWords ⟨_, rfl⟩)

/-- A mail step fails in words unless it gets as far as handing a mail to the transport. -/
theorem sendMail_speaks_or_sends :
    sendMail.Speaks fields environment request world ∨
      ∃ transport mail, Sends fields environment request transport mail := by
  by_cases silent : ∃ transport mail, Sends fields environment request transport mail
  · right
    exact silent
  left
  apply speaks_of_ends
  apply ofFault_bind_inWords
  intro recipient recipient_eq
  apply ofFault_bind_inWords
  intro subject subject_eq
  apply ofFault_bind_inWords
  intro body body_eq
  split
  · exact .fail (.error ⟨_, rfl⟩)
  · rename_i given
    split
    · exact .fail (.error ⟨_, rfl⟩)
    · rename_i transport present
      apply Action.Ends.ofExcept_bind _ (mailOf_inWords recipient subject body).of_error
      intro mail mail_eq
      have complete : (recipient.isTruthy && subject.isTruthy && body.isTruthy) = true := by
        simpa [and_assoc] using given
      exact absurd ⟨transport, mail, present, recipient, subject, body, recipient_eq, subject_eq,
        body_eq, complete, Outcome.mapError_eq_ok_iff.1 mail_eq⟩ silent

/-- A mail step hands a mail to the transport, which refuses it without words. -/
def IsMutelyRefused (fields environment : Object) (request : Request) (world : World) : Prop :=
  ∃ transport mail answer, Sends fields environment request transport mail ∧
    transport.send world.calls world.outbox mail = .ok answer ∧ IsMute answer

/-- A mail step fails without words exactly when its mail is refused without words. -/
theorem sendMail_mute_iff (worded : request.collaborators.Worded) :
    ¬ sendMail.Speaks fields environment request world ↔
      IsMutelyRefused fields environment request world := by
  constructor
  · intro mute
    obtain ⟨transport, mail, sends⟩ :=
      (sendMail_speaks_or_sends fields environment request world).resolve_left mute
    rw [Speaks, result_sendMail fields environment request world sends] at mute
    cases sent : transport.send world.calls world.outbox mail with
    | ok answer =>
        rw [sent] at mute
        exact ⟨transport, mail, answer, sends, sent, readAnswer_mute_iff.1 mute⟩
    | error failure =>
        rw [sent] at mute
        refine absurd (.error (undelivered_hasWords ?_)) mute
        exact worded.send transport sends.present _ _ mail failure sent
  · rintro ⟨transport, mail, answer, sends, sent, mute⟩
    rw [Speaks, result_sendMail fields environment request world sends, sent]
    exact readAnswer_mute_iff.2 mute

/-- A built-in handler fails without words exactly when it is the mail step's and its mail is refused
without words. -/
theorem mute_iff_of_kind (worded : request.collaborators.Worded) (kind : Kind) :
    ¬ kind.handler.Speaks fields environment request world ↔
      kind = .email ∧ IsMutelyRefused fields environment request world := by
  cases kind with
  | email => simp [Kind.handler, sendMail_mute_iff fields environment request world worded]
  | input => simp [Kind.handler, collectInput_speaks]
  | validation => simp [Kind.handler, validateInput_speaks]
  | find => simp [Kind.handler, findDocuments_speaks]
  | insert => simp [Kind.handler, insertDocument_speaks _ _ _ _ worded]
  | update => simp [Kind.handler, updateDocuments_speaks]
  | delete => simp [Kind.handler, deleteDocuments_speaks]
  | auth => simp [Kind.handler, authenticate_speaks _ _ _ _ worded]
  | login => simp [Kind.handler, logIn_speaks _ _ _ _ worded]

end Handler

end Workflow
