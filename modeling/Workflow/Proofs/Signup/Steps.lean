import Workflow.Graph.Compile
import Workflow.Proofs.Engine.Trail
import Workflow.Proofs.Handler.Effect
import Workflow.Proofs.Handler.Input
import Workflow.Proofs.Handler.Wording
import Workflow.Proofs.Template.Filling
import Workflow.Proofs.Value.Fields
import Workflow.Signup

/-!
# The steps of the sign-up workflow

The sign-up graph compiles to four steps.  Each of them is followed on any input: what the caller
gave is bound, checked, stored and mailed as it is, and nothing in it is taken for a path or a
template.
-/

namespace Workflow.Signup

open Handler (fillIn fillIn_eq withDefaults isMissing)

/-! ## The compiled steps -/

/-- The step that binds the input. -/
def collect : Step where
  id := "step1"
  kind := Kind.input.name
  fields := [("variables", .arr [declare "name", declare "email", declare "password"])]
  output := "input"

/-- The step that checks the input. -/
def validate : Step where
  id := "step2"
  kind := Kind.validation.name
  fields := [("rules", .arr [requireText "input.email", requireText "input.password"])]
  output := "validated"

/-- The step that stores the user. -/
def storeUser : Step where
  id := "step3"
  kind := Kind.insert.name
  fields := [("collection", .str "users"),
    ("data", .obj [("name", .str "input.name"), ("email", .str "input.email"),
      ("password", .str "input.password")])]
  output := "createdRecord"

/-- The body of the mail, as it stands in the last step. -/
def bodyTemplate : String :=
  "Hi " ++ slot "input.name" ++ ", your account " ++ slot "createdRecord.email" ++ " is ready."

/-- The step that mails the user. -/
def welcome : Step where
  id := "step4"
  kind := Kind.email.name
  fields := [("to", .str "createdRecord.email"), ("subject", .str "Welcome aboard"),
    ("body", .str bodyTemplate)]
  output := "emailResult"

/-- The compiled form of the graph. -/
def steps : List Step := [collect, validate, storeUser, welcome]

theorem compile_graph : graph.compile = .ok steps := by
  with_unfolding_all rfl

/-! ## Binding the input -/

/-- The input with a null for each variable that the caller left out. -/
def completed (given : Object) : Object :=
  withDefaults given (.arr [declare "name", declare "email", declare "password"])

/-- Filling in a variable that is declared without a default changes no value. -/
theorem field_fillIn_declare (current : Object) (name : String) (wanted : Name) :
    Value.field (fillIn current (declare name)) wanted = Value.field current wanted := by
  have noDefault : Node.declaredDefault (declare name) = .null := by
    simp [Node.declaredDefault, declare, Value.field, Object.get?]
  rw [fillIn_eq, Handler.declaration?, noDefault]
  cases Node.declaredName? (declare name) with
  | none => rfl
  | some declared =>
      rw [Option.map_some]
      dsimp only
      rw [Value.field_setDefault]
      split
      · rename_i same
        rw [Value.field, Object.get?_congr current same]
      · rfl

theorem field_completed (given : Object) (wanted : Name) :
    Value.field (completed given) wanted = Value.field given wanted := by
  simp only [completed, withDefaults, List.foldl_cons, List.foldl_nil, field_fillIn_declare]

variable {request : Request} {world : World} {given : Object}

theorem reply_collect (single : (Object.identities given).Nodup) :
    Execution.reply .standard request collect [("input", .obj given)] world =
      { result := .ok (.obj (completed given)), world } := by
  rw [Execution.reply_standard (rfl : Kind.input.name = collect.kind), Kind.handler,
    Handler.collectInput_eq rfl single]
  rfl

/-! ## Checking the input -/

/-- What is wrong with a value that has to be a text that is not empty. -/
def textProblem? : Value → Option String
  | .null => some "Field is required"
  | .str text => if text = "" then some "Field is required" else none
  | _ => some "Expected string"

/-- Whether a value is a text that is not empty. -/
def isFilled : Value → Bool
  | .str text => text ≠ ""
  | _ => false

theorem isNone_textProblem? (value : Value) : (textProblem? value).isNone = isFilled value := by
  cases value with
  | str text => by_cases empty : text = "" <;> simp [textProblem?, isFilled, empty]
  | _ => rfl

theorem isFilled_iff {value : Value} :
    isFilled value = true ↔ ∃ text, value = .str text ∧ text ≠ "" := by
  cases value <;> simp [isFilled]

/-- The environment after the input is bound. -/
def bound (given : Object) : Object := [("input", .obj (completed given))]

/-- The environment after the input is checked. -/
def checked (given : Object) : Object :=
  [("input", .obj (completed given)), ("validated", .bool true)]

theorem lookup_input {environment : Object} {path name : String}
    (binds : Value.field environment "input" = .obj (completed given))
    (segmented : Path.segments path = ["input", name]) :
    Path.lookup environment path = Value.field given name := by
  rw [Path.lookup_pair segmented binds, field_completed]

/-- The message about a variable that has to be given as a text, under its path. -/
def failure (given : Object) (name : String) : List (String × List String) :=
  match textProblem? (Value.field given name) with
  | some message => [("input." ++ name, [message])]
  | none => []

/-- The messages about the input, in the order of the rules. -/
def failures (given : Object) : List (String × List String) :=
  failure given "email" ++ failure given "password"

/-- The paths of the variables that have to be given as texts and are not. -/
def offending (given : Object) : List String :=
  (["email", "password"].filter fun (name : String) => !isFilled (Value.field given name)).map
    ("input." ++ ·)

theorem fst_failures (given : Object) : (failures given).map (·.1) = offending given := by
  have each (name : String) : (failure given name).map (·.1) =
      if isFilled (Value.field given name) then [] else ["input." ++ name] := by
    rw [← isNone_textProblem?, failure]
    cases textProblem? (Value.field given name) <;> rfl
  rw [failures, List.map_append, each, each, offending, List.filter_cons, List.filter_cons]
  cases isFilled (Value.field given "email") <;>
    cases isFilled (Value.field given "password") <;> rfl

/-- A rule that requires a text finds what is wrong with the variable that it names. -/
theorem checkRule_requireText {environment : Object} {path name : String}
    (binds : Value.field environment "input" = .obj (completed given))
    (segmented : Path.segments path = ["input", name]) (bare : Template.lone? path = none)
    (problems : List (String × List String)) :
    Handler.checkRule environment problems (requireText path) =
      .ok (match textProblem? (Value.field given name) with
        | some message => Handler.addProblem path message problems
        | none => problems) := by
  have nonempty : path ≠ "" := by
    rintro rfl
    simp [Path.segments, Path.splitPoints] at segmented
  let rule : Object := [("field", .str path), ("required", .bool true), ("type", .str "string")]
  have named : (Value.field rule "field").orElse (.str "") = .str path := by
    simp [rule, Value.field, Object.get?, Value.orElse, Value.isTruthy, nonempty]
  have required : (Value.field rule "required").isTruthy = true := by
    simp [rule, Value.field, Object.get?, Value.isTruthy]
  have typed : Value.field rule "type" = .str "string" := by
    simp [rule, Value.field, Object.get?]
  have problem : Handler.ruleProblem? environment rule path =
      textProblem? (Value.field given name) := by
    simp only [Handler.ruleProblem?, Handler.fieldPath, bare, Option.getD_none,
      lookup_input binds segmented, required, typed, Bool.true_and]
    cases Value.field given name with
    | str text =>
        by_cases empty : text = "" <;>
          simp [textProblem?, isMissing, Handler.typeProblem?, empty]
    | _ => simp [textProblem?, isMissing, Handler.typeProblem?]
  have rule_eq : requireText path = .obj rule := rfl
  simp only [Handler.checkRule, rule_eq, named, problem]
  cases textProblem? (Value.field given name) <;> rfl

/-- The rules find what is wrong with the input. -/
theorem problems_rules (given : Object) :
    Handler.problems (bound given) (Value.field validate.fields "rules") =
      .ok (failures given) := by
  have rules : Handler.rulesOf (Value.field validate.fields "rules") =
      .ok [requireText "input.email", requireText "input.password"] := rfl
  have email : Path.segments "input.email" = ["input", "email"] := by decide +kernel
  have password : Path.segments "input.password" = ["input", "password"] := by decide +kernel
  have binds : Value.field (bound given) "input" = .obj (completed given) := rfl
  have checkEmail := checkRule_requireText binds email (by decide +kernel)
  have checkPassword := checkRule_requireText binds password (by decide +kernel)
  simp only [Handler.problems, rules, Outcome.ok_bind, List.foldlM_cons, List.foldlM_nil,
    checkEmail, checkPassword, failures, failure]
  cases textProblem? (Value.field given "email") <;>
    cases textProblem? (Value.field given "password") <;> rfl

theorem reply_validate :
    Execution.reply .standard request validate (bound given) world =
      { result :=
          if offending given = [] then .ok (.bool true)
          else .error (.step (.validation (failures given)))
        world } := by
  have none_iff : (failures given).isEmpty = true ↔ offending given = [] := by
    rw [← fst_failures, List.map_eq_nil_iff, List.isEmpty_iff]
  rw [Execution.reply_standard (rfl : Kind.validation.name = validate.kind), Kind.handler,
    Handler.validateInput_eq]
  simp only [problems_rules, none_iff]

/-! ## Storing the user -/

/-- The document of a user. -/
def user (given : Object) (email : String) (hash : Value) (id : String) : Document :=
  [("name", Value.field given "name"), ("email", .str email), ("password", hash),
    ("_id", .str id)]

/-- A reference to an input variable stands for what the caller gave. -/
theorem resolve_input {environment : Object} {path name : String}
    (binds : Value.field environment "input" = .obj (completed given))
    (segmented : Path.segments path = ["input", name]) (amid : Template.lone? path = none)
    (plain : Template.hasSlot path = false) :
    Template.resolve environment (.str path) = .ok (Value.field given name) := by
  rw [Template.resolve_pair segmented binds amid plain, field_completed]

/-- The world once a user is stored. -/
def enrolled (world : World) (documents : List Document) (document : Document) : World :=
  { world with
    store := world.store.replace "users" (documents ++ [document])
    issued := world.issued + 1
    calls := world.calls + 1 }

/-- The data of the document, before the password is hashed. -/
theorem resolve_data (given : Object) :
    Template.resolveMapping (checked given) (Value.field storeUser.fields "data") =
      .ok (.obj [("name", Value.field given "name"), ("email", Value.field given "email"),
        ("password", Value.field given "password")]) := by
  have name : Template.resolve (checked given) (.str "input.name") =
      .ok (Value.field given "name") :=
    resolve_input rfl (by decide +kernel) (by decide +kernel) (by decide +kernel)
  have email : Template.resolve (checked given) (.str "input.email") =
      .ok (Value.field given "email") :=
    resolve_input rfl (by decide +kernel) (by decide +kernel) (by decide +kernel)
  have password : Template.resolve (checked given) (.str "input.password") =
      .ok (Value.field given "password") :=
    resolve_input rfl (by decide +kernel) (by decide +kernel) (by decide +kernel)
  have data_eq : (Value.field storeUser.fields "data").orElse (.obj []) =
      .obj [("name", .str "input.name"), ("email", .str "input.email"),
        ("password", .str "input.password")] := rfl
  rw [Template.resolveMapping, data_eq, Template.resolve]
  simp only [Template.resolveFields, name, email, password, Outcome.ok_bind]
  rfl

theorem run_hashPassword {hasher : Hasher} (configured : request.collaborators.hasher = some hasher)
    {data : Object} {password hash : Value} (password_eq : Value.field data "password" = password)
    (truthy : password.isTruthy = true) (hashed : hasher.hash world.calls password = .ok hash) :
    (Handler.hashPassword request data).run.run world =
      (.ok (Object.set data "password" hash), world.tick) := by
  have ends : (Handler.hashPassword request data).Ends world fun outcome after =>
      outcome = .ok (Object.set data "password" hash) ∧ after = world.tick := by
    unfold Handler.hashPassword
    simp only [password_eq, truthy, if_true, configured]
    apply Action.Ends.ask_bind
    · intro answer answered
      obtain rfl := Except.ok.inj (hashed.symm.trans answered)
      exact .pure ⟨rfl, rfl⟩
    · intro failure failed
      cases hashed.symm.trans failed
  exact Prod.ext ends.1 ends.2

theorem reply_storeUser {hasher : Hasher} (configured : request.collaborators.hasher = some hasher)
    {documents : List Document} (present : world.store.documents? "users" = some documents)
    {email password : String} (email_eq : Value.field given "email" = .str email)
    (password_eq : Value.field given "password" = .str password) (nonempty : password ≠ "")
    {hash : Value} (hashed : hasher.hash world.calls (.str password) = .ok hash) :
    let stored := user given email hash (Identifier.plain (world.issued + 1))
    Execution.reply .standard request storeUser (checked given) world =
      { result := .ok (.obj stored), world := enrolled world documents stored } := by
  intro stored
  have named : Handler.requireCollection storeUser.fields world.store = .ok "users" :=
    Handler.requireCollection_eq_ok_iff.2 ⟨rfl, by decide, documents, present⟩
  have data_eq := resolve_data given
  rw [email_eq, password_eq] at data_eq
  have truthy : (Value.str password).isTruthy = true := by
    simpa [Value.isTruthy] using nonempty
  rw [Execution.reply_standard (rfl : Kind.insert.name = storeUser.kind), Kind.handler,
    Handler.insertDocument]
  apply Handler.reply_of_ends
  apply Action.Ends.query_ok named
  apply Action.Ends.ofFault_ok data_eq
  refine .bind (run_hashPassword configured rfl truthy hashed) ?_ ?_
  · intro document same
    obtain rfl := Except.ok.inj same
    have kept : world.tick.store.documents? "users" = some documents := present
    exact .report (Action.run_create kept _) ⟨rfl, rfl⟩
  · intro failure failed
    cases failed

/-! ## Mailing the user -/

/-- The environment after the user is stored. -/
def registered (given : Object) (stored : Document) : Object :=
  [("input", .obj (completed given)), ("validated", .bool true), ("createdRecord", .obj stored)]

/-- The mail to a user with a name as it is shown. -/
def mail (email shown : String) : Mail :=
  ⟨email, "Welcome aboard", "Hi " ++ shown ++ ", your account " ++ email ++ " is ready."⟩

/-- The world once a mail is handed to the transport. -/
def notified (world : World) (mail : Mail) : World :=
  { world.tick with outbox := world.outbox ++ [mail] }

theorem pieces_bodyTemplate :
    Template.pieces bodyTemplate =
      "Hi ".toList.map .char ++ ([.slot "input.name".toList] ++
        (", your account ".toList.map .char ++ ([.slot "createdRecord.email".toList] ++
          " is ready.".toList.map .char))) := by
  decide +kernel

theorem segments_email :
    Path.segments "createdRecord.email" = ["createdRecord", "email"] := by
  decide +kernel

/-- The body shows the name and the email as they were given. -/
theorem resolve_body {stored : Document} {email shown : String}
    (email_eq : Value.field stored "email" = .str email)
    (rendered : Template.fill (Value.field given "name") = .ok shown) :
    Template.resolve (registered given stored) (.str bodyTemplate) =
      .ok (.str (mail email shown).body) := by
  have amid : Template.lone? bodyTemplate = none := by decide +kernel
  have slotted : Template.hasSlot bodyTemplate = true := by decide +kernel
  have name : Template.fillPieces (registered given stored) [.slot "input.name".toList] =
      .ok shown := by
    have path_eq : Template.slotPath "input.name".toList = "input.name" := by decide +kernel
    have segmented : Path.segments "input.name" = ["input", "name"] := by decide +kernel
    apply Template.fillPieces_slot path_eq
    rwa [lookup_input rfl segmented]
  have address : Template.fillPieces (registered given stored)
      [.slot "createdRecord.email".toList] = .ok email := by
    have path_eq : Template.slotPath "createdRecord.email".toList = "createdRecord.email" := by
      decide +kernel
    apply Template.fillPieces_slot path_eq
    rw [Path.lookup_pair segments_email rfl, email_eq]
    rfl
  have filled : Template.interpolate (registered given stored) bodyTemplate =
      .ok (mail email shown).body := by
    have text (chars : List Char) : Template.fillPieces (registered given stored)
        (chars.map .char) = .ok (String.ofList chars) :=
      Template.fillPieces_chars chars
    rw [Template.interpolate, pieces_bodyTemplate,
      Template.fillPieces_append (text _) (Template.fillPieces_append name
        (Template.fillPieces_append (text _) (Template.fillPieces_append address (text _))))]
    simp only [String.ofList_toList, mail, String.append_assoc]
  rw [Template.resolve, Template.resolveText, amid]
  simp only [slotted, if_true, filled]
  rfl

theorem reply_welcome {transport : Transport}
    (configured : request.collaborators.transport = some transport) {stored : Document}
    {email shown : String} (email_eq : Value.field stored "email" = .str email)
    (nonempty : email ≠ "") (rendered : Template.fill (Value.field given "name") = .ok shown) :
    Execution.reply .standard request welcome (registered given stored) world =
      { result := (transport.send world.calls world.outbox (mail email shown)).mapError
          Handler.undelivered >>= Handler.readAnswer
        world := notified world (mail email shown) } := by
  have recipient : Template.resolve (registered given stored) (.str "createdRecord.email") =
      .ok (.str email) := by
    rw [Template.resolve_pair segments_email rfl (by decide +kernel) (by decide +kernel), email_eq]
  have subject : Template.resolve (registered given stored) (.str "Welcome aboard") =
      .ok (.str "Welcome aboard") := by
    rw [Template.resolve, Template.resolveText_of_no_slot (by decide +kernel) (by decide +kernel)]
    rfl
  have complete : ((Value.str email).isTruthy && (Value.str "Welcome aboard").isTruthy &&
      (Value.str (mail email shown).body).isTruthy) = true := by
    simp [Value.isTruthy, mail, nonempty]
  rw [Execution.reply_standard (rfl : Kind.email.name = welcome.kind), Kind.handler]
  apply Handler.sendMail_of_sends
  exact ⟨configured, _, _, _, recipient, subject, resolve_body email_eq rendered, complete, rfl⟩

end Workflow.Signup
