import Workflow.Proofs.Engine.Return
import Workflow.Proofs.Handler.Delivery
import Workflow.Proofs.Handler.Login
import Workflow.Proofs.Signup.Steps
import Workflow.Proofs.Text.Hexadecimal

/-!
# Runs of the sign-up workflow

On any input, a run of the sign-up workflow either reports the variables that are not given as texts
and does nothing, or stores one user and then hands one mail to the transport.
-/

namespace Workflow.Signup

open Execution (advance advance_of_error advance_of_ok)

/-! ## The steps in sequence -/

section Steps

variable {request : Request} {world : World} {given : Object}

theorem advance_collect (single : (Object.identities given).Nodup) :
    advance .standard request ([("input", .obj given)], world) collect =
      .ok (bound given, world) := by
  have replied := @reply_collect request world given single
  rw [advance_of_ok (congrArg Reply.result replied), replied]
  rfl

theorem advance_validate (accepted : offending given = []) :
    advance .standard request (bound given, world) validate = .ok (checked given, world) := by
  have replied := @reply_validate request world given
  rw [if_pos accepted] at replied
  rw [advance_of_ok (congrArg Reply.result replied), replied]
  rfl

theorem advance_validate_of_offending (offends : offending given ≠ []) :
    advance .standard request (bound given, world) validate =
      .error (.step (.validation (failures given)), world) := by
  have replied := @reply_validate request world given
  rw [if_neg offends] at replied
  rw [advance_of_error (congrArg Reply.result replied), replied]

/-- The first three steps store the user. -/
theorem foldlM_enrolled (single : (Object.identities given).Nodup)
    (accepted : offending given = []) {hasher : Hasher}
    (configured : request.collaborators.hasher = some hasher)
    {documents : List Document} (present : world.store.documents? "users" = some documents)
    {email password : String} (email_eq : Value.field given "email" = .str email)
    (password_eq : Value.field given "password" = .str password) (nonempty : password ≠ "")
    {hash : Value} (hashed : hasher.hash world.calls (.str password) = .ok hash) :
    let stored := user given email hash (Identifier.plain (world.issued + 1))
    (steps.take 3).foldlM (advance .standard request) ([("input", .obj given)], world) =
      .ok (registered given stored, enrolled world documents stored) := by
  intro stored
  have replied := reply_storeUser configured present email_eq password_eq nonempty hashed
  have advanced : advance .standard request (checked given, world) storeUser =
      .ok (registered given stored, enrolled world documents stored) := by
    rw [advance_of_ok (congrArg Reply.result replied), replied]
    rfl
  change [collect, validate, storeUser].foldlM _ _ = _
  rw [List.foldlM_cons, advance_collect single, Outcome.ok_bind, List.foldlM_cons,
    advance_validate accepted, Outcome.ok_bind, List.foldlM_cons, advanced]
  rfl

end Steps

/-! ## Runs -/

/-- An engine keeps the sign-up graph, has the built-in handlers and a collection of users, and its
hasher and its transport keep to their contracts. -/
structure Ready (engine : Engine) (id : String) (documents : List Document) (hasher : Hasher)
    (transport : Transport) : Prop where
  standard : engine.registry = .standard
  kept : ∃ stored, engine.graph? id = some stored ∧ graph.compile = .ok stored.steps
  present : engine.scene.world.store.documents? "users" = some documents
  hasher_eq : engine.collaborators.hasher = some hasher
  hashes : ∀ call text, ∃ hash, hasher.hash call (.str text) = .ok hash
  transport_eq : engine.collaborators.transport = some transport
  lawful : transport.Lawful

/-- A run fails at the check of the input, reports the variables that are not given as texts, and
leaves the world as it found it. -/
structure Rejected (given : Object) (world : World) (run : Run) (result : Result)
    (after : World) : Prop where
  status_eq : run.status = .failed
  failedStep_eq : result.failedStep = some 1
  errorDetails_eq : ∃ messages, messages.map (·.1) = offending given ∧
    result.errorDetails = some (StepError.validation messages).report.toObject
  world_eq : after = world

/-- A run stores a document, then hands a mail to the transport, and is completed when the mail is
delivered; otherwise it fails with a mail error, and the document stays. -/
structure Mailed (transport : Transport) (world : World) (documents : List Document)
    (document : Document) (mail : Mail) (run : Run) (result : Result) (after : World) : Prop where
  world_eq : after = notified (enrolled world documents document) mail
  ends : ∃ delivered,
    Transport.Answers (transport.send (world.calls + 1) world.outbox mail) delivered ∧
    if delivered then run.status = .completed
    else run.status = .failed ∧ result.failedStep = some 3 ∧
      ∃ report : Report, report.kind = .email ∧ result.errorDetails = some report.toObject

variable {engine : Engine} {id : String} {documents : List Document} {hasher : Hasher}
  {transport : Transport} {input headers : Value} {given sent : Object}

theorem exists_texts_of_accepted (accepted : offending given = []) :
    ∃ email password, Value.field given "email" = .str email ∧ email ≠ "" ∧
      Value.field given "password" = .str password ∧ password ≠ "" := by
  have filled : ∀ name ∈ ["email", "password"], isFilled (Value.field given name) = true := by
    simpa [offending] using accepted
  obtain ⟨email, email_eq, email_given⟩ := isFilled_iff.1 (filled "email" (by simp))
  obtain ⟨password, password_eq, password_given⟩ := isFilled_iff.1 (filled "password" (by simp))
  exact ⟨email, password, email_eq, email_given, password_eq, password_given⟩

/-- A run of the graph is a run of its compiled steps. -/
theorem Ready.runGraph_eq (ready : Ready engine id documents hasher transport)
    (input headers : Value) :
    engine.runGraph id input headers = engine.runSteps steps input headers (some id) := by
  obtain ⟨stored, found, compiled⟩ := ready.kept
  have steps_eq : steps = stored.steps := Except.ok.inj (compile_graph.symm.trans compiled)
  simp only [Engine.runGraph, found, steps_eq]

theorem Ready.leaves (ready : Ready engine id documents hasher transport) :
    engine.registry.LeavesInput :=
  ready.standard ▸ Registry.standard_leavesInput

/-- A run stops at the check when an email or a password is not given as a text. -/
theorem exists_rejected (ready : Ready engine id documents hasher transport)
    (input_eq : Pairs.toObject input = .ok given) (headers_eq : Pairs.toObject headers = .ok sent)
    (offends : offending given ≠ []) :
    ∃ run result after, engine.runGraph id input headers = (.ok run, after) ∧
      run.result = some result ∧
      Rejected given engine.drawId.2.scene.world run result after.scene.world := by
  have single := Pairs.nodup_of_toObject input_eq
  let request := engine.request none sent
  have reached : (steps.take 1).foldlM (advance engine.registry request)
      ([("input", .obj given)], engine.drawId.2.scene.world) =
        .ok (bound given, engine.drawId.2.scene.world) := by
    change [collect].foldlM _ _ = _
    rw [ready.standard, List.foldlM_cons, advance_collect single]
    rfl
  have failed : advance engine.registry request (bound given, engine.drawId.2.scene.world) validate =
      .error (.step (.validation (failures given)), engine.drawId.2.scene.world) := by
    rw [ready.standard, advance_validate_of_offending offends]
  obtain ⟨run, result, after, run_eq, result_eq, status_eq, position, details_eq, world_eq⟩ :=
    Engine.runSteps_of_failed ready.leaves input_eq headers_eq (some id) rfl reached failed ⟨_, rfl⟩
  exact ⟨run, result, after, (ready.runGraph_eq input headers).trans run_eq, result_eq, status_eq,
    position, ⟨failures given, fst_failures given, details_eq⟩, world_eq⟩

/-- A run stores the user and hands over the mail when an email and a password are given. -/
theorem exists_mailed (ready : Ready engine id documents hasher transport)
    (input_eq : Pairs.toObject input = .ok given) (headers_eq : Pairs.toObject headers = .ok sent)
    {shown email password : String}
    (rendered : Template.fill (Value.field given "name") = .ok shown)
    (accepted : offending given = []) (email_eq : Value.field given "email" = .str email)
    (email_given : email ≠ "") (password_eq : Value.field given "password" = .str password)
    (password_given : password ≠ "") {hash : Value}
    (hashed : hasher.hash engine.scene.world.calls (.str password) = .ok hash) :
    let before := engine.drawId.2.scene.world
    let document := user given email hash (Identifier.plain (before.issued + 1))
    ∃ run result after, engine.runGraph id input headers = (.ok run, after) ∧
      run.result = some result ∧
      engine.Arrives steps input none sent 3 (registered given document)
        (enrolled before documents document) ∧
      Mailed transport before documents document (mail email shown) run result
        after.scene.world := by
  intro before document
  let request := engine.request none sent
  have single := Pairs.nodup_of_toObject input_eq
  have reached : (steps.take 3).foldlM (advance engine.registry request)
      ([("input", .obj given)], before) =
        .ok (registered given document, enrolled before documents document) := by
    have present : before.store.documents? "users" = some documents := ready.present
    have configured : request.collaborators.hasher = some hasher := ready.hasher_eq
    rw [ready.standard]
    exact foldlM_enrolled single accepted configured present email_eq password_eq password_given
      hashed
  have arrives : engine.Arrives steps input none sent 3 (registered given document)
      (enrolled before documents document) :=
    ⟨given, input_eq, reached⟩
  have replied : Execution.reply engine.registry request welcome (registered given document)
      (enrolled before documents document) =
        { result := (transport.send (before.calls + 1) before.outbox (mail email shown)).mapError
            Handler.undelivered >>= Handler.readAnswer
          world := notified (enrolled before documents document) (mail email shown) } := by
    have configured : request.collaborators.transport = some transport := ready.transport_eq
    rw [ready.standard]
    exact reply_welcome configured rfl email_given rendered
  -- The mail step is the last one: its answer decides how the run ends, but not what it did.
  obtain ⟨delivered, answers⟩ := ready.lawful (before.calls + 1) before.outbox (mail email shown)
  have outcome := Handler.readAnswer_of_answers answers
  cases delivered with
  | true =>
      obtain ⟨value, ok⟩ := outcome
      rw [ok] at replied
      have finished : steps.foldlM (advance engine.registry request)
          ([("input", .obj given)], before) =
            .ok (Object.set (registered given document) "emailResult" value,
              notified (enrolled before documents document) (mail email shown)) := by
        rw [← List.take_append_drop 3 steps, List.foldlM_append, reached, Outcome.ok_bind]
        change [welcome].foldlM _ _ = _
        rw [List.foldlM_cons, advance_of_ok (congrArg Reply.result replied), replied]
        rfl
      obtain ⟨run, result, after, run_eq, result_eq, status_eq, world_eq⟩ :=
        Engine.runSteps_of_finished ready.leaves input_eq headers_eq (some id) finished
      exact ⟨run, result, after, (ready.runGraph_eq input headers).trans run_eq, result_eq,
        arrives, world_eq, true, answers, status_eq⟩
  | false =>
      obtain ⟨failure, stopped, kind_eq, words⟩ := outcome
      rw [stopped] at replied
      have failed : advance engine.registry request
          (registered given document, enrolled before documents document) welcome =
            .error (failure, notified (enrolled before documents document) (mail email shown)) := by
        rw [advance_of_error (congrArg Reply.result replied), replied]
      obtain ⟨run, result, after, run_eq, result_eq, status_eq, position, details_eq, world_eq⟩ :=
        Engine.runSteps_of_failed ready.leaves input_eq headers_eq (some id) rfl reached failed words
      exact ⟨run, result, after, (ready.runGraph_eq input headers).trans run_eq, result_eq,
        arrives, world_eq, false, answers, status_eq, position, failure.report, kind_eq, details_eq⟩

/-! ## Main result -/

/-- A run of the sign-up workflow on an input whose name can be shown comes to a result.  It fails at
the check, with the world unchanged, when an email or a password is not given as a text.  Otherwise
it stores one user, with the email as it was given, the hash of the password and a new id, and hands
one mail to the transport once the user is stored. -/
theorem runGraph_signUp (ready : Ready engine id documents hasher transport)
    (input_eq : Pairs.toObject input = .ok given) (headers_eq : Pairs.toObject headers = .ok sent)
    {shown : String} (rendered : Template.fill (Value.field given "name") = .ok shown) :
    ∃ run result after, engine.runGraph id input headers = (.ok run, after) ∧
      run.result = some result ∧
      (offending given ≠ [] →
        Rejected given engine.drawId.2.scene.world run result after.scene.world) ∧
      (offending given = [] → ∃ email password hash fresh,
        Value.field given "email" = .str email ∧
        Value.field given "password" = .str password ∧
        hasher.hash engine.scene.world.calls (.str password) = .ok hash ∧
        (∀ number ≤ engine.drawId.2.scene.world.issued, Identifier.plain number ≠ fresh) ∧
        engine.Arrives steps input none sent 3 (registered given (user given email hash fresh))
          (enrolled engine.drawId.2.scene.world documents (user given email hash fresh)) ∧
        Mailed transport engine.drawId.2.scene.world documents (user given email hash fresh)
          (mail email shown) run result after.scene.world) := by
  by_cases accepted : offending given = []
  · obtain ⟨email, password, email_eq, email_given, password_eq, password_given⟩ :=
      exists_texts_of_accepted accepted
    obtain ⟨hash, hashed⟩ := ready.hashes engine.scene.world.calls password
    obtain ⟨run, result, after, run_eq, result_eq, arrives, mailed⟩ :=
      exists_mailed ready input_eq headers_eq rendered accepted email_eq email_given password_eq
        password_given hashed
    refine ⟨run, result, after, run_eq, result_eq, absurd accepted, fun _ =>
      ⟨email, password, hash, _, email_eq, password_eq, hashed, ?_, arrives, mailed⟩⟩
    intro number old same
    have number_eq := Identifier.plain_injective same
    omega
  · obtain ⟨run, result, after, run_eq, result_eq, rejected⟩ :=
      exists_rejected ready input_eq headers_eq accepted
    exact ⟨run, result, after, run_eq, result_eq, fun _ => rejected,
      fun none => absurd none accepted⟩

/-- A name that looks like a template and an email that looks like a reference are stored and mailed
as they are. -/
theorem runGraph_signUp_lookalike :
    let relay : Transport :=
      ⟨fun _ _ _ => .ok (.obj [("success", .bool true), ("messageId", .str "first")])⟩
    let engine : Engine := {
      graphs := [("signup", { id := "signup", graph, steps })]
      collaborators := { hasher := some .marking, transport := some relay }
      scene := { world := { store := .ofNames ["users"] } } }
    let given : Object :=
      [("name", .str (slot "password")), ("email", .str "input.password"),
        ("password", .str "secret")]
    ∃ run after fresh, engine.runGraph "signup" (.obj given) .null = (.ok run, after) ∧
      run.status = .completed ∧
      after.scene.world.store.documents? "users" =
        some [user given "input.password" (.str "hash of secret") fresh] ∧
      after.scene.world.outbox = [mail "input.password" (slot "password")] := by
  intro relay engine given
  have lawful : relay.Lawful := fun _ _ _ => ⟨true, .accepted rfl⟩
  have ready : Ready engine "signup" [] .marking relay :=
    ⟨rfl, ⟨_, rfl, compile_graph⟩, rfl, rfl, fun _ text => ⟨.str ("hash of " ++ text), rfl⟩, rfl,
      lawful⟩
  have single : (Object.identities given).Nodup := by decide
  have headers_eq : Pairs.toObject .null = .ok [] := rfl
  have rendered : Template.fill (Value.field given "name") = .ok (slot "password") := rfl
  obtain ⟨run, result, after, run_eq, -, -, signedUp⟩ :=
    runGraph_signUp ready (Pairs.toObject_obj single) headers_eq rendered
  have accepted : offending given = [] := by decide
  obtain ⟨email, password, hash, fresh, email_eq, password_eq, hashed, -, -, mailed⟩ :=
    signedUp accepted
  obtain rfl : "input.password" = email := Value.str.inj email_eq
  obtain rfl : "secret" = password := Value.str.inj password_eq
  obtain rfl : .str "hash of secret" = hash := Except.ok.inj hashed
  obtain ⟨delivered, answers, status⟩ := mailed.ends
  have completed : run.status = .completed := by
    cases answers with
    | accepted => exact status
    | refused refused => cases refused
  have world_eq := mailed.world_eq
  refine ⟨run, after, fresh, run_eq, completed, ?_, ?_⟩
  · rw [world_eq]
    rfl
  · rw [world_eq]
    rfl

end Workflow.Signup
