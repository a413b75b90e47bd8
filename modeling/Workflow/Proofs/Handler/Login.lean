import Workflow.Proofs.Handler.Effect
import Workflow.Proofs.Outcome

/-!
# Signing up and logging in

A login looks for the first user with an email and asks the hasher about the password.  After an
insertion that signs a user up it accepts the password given there, and it answers everybody else as
before.
-/

namespace Workflow

/-- The hasher returns texts, and accepts the password for each of them from then on. -/
structure Hasher.Agrees (hasher : Hasher) : Prop where
  text : ∀ call password hash, hasher.hash call password = .ok hash →
    ∃ text, text ≠ "" ∧ hash = .str text
  accepts : ∀ call password hash, hasher.hash call password = .ok hash →
    ∀ later, ∃ passed, hasher.verify later password hash = .ok passed ∧ passed.isTruthy = true

/-- A hasher that puts a mark in front of a password. -/
def Hasher.marking : Hasher where
  hash _ password :=
    match password with
    | .str text => .ok (.str ("hash of " ++ text))
    | other => .error (.fault (.notText other.type))
  verify _ password stored :=
    match password, stored with
    | .str text, .str mark => .ok (.bool (mark = "hash of " ++ text))
    | _, _ => .ok (.bool false)

theorem Hasher.marking_agrees : Hasher.marking.Agrees := by
  constructor
  · intro call password hash hashed
    cases password with
    | str text =>
        exact ⟨_, by simp [String.append_eq_empty_iff], (Except.ok.inj hashed).symm⟩
    | _ => cases hashed
  · intro call password hash hashed later
    cases password with
    | str text =>
        obtain rfl := Except.ok.inj hashed
        exact ⟨.bool true, by simp [marking], rfl⟩
    | _ => cases hashed

namespace Value

/-- Nothing but a text equals a text. -/
theorem same_str_iff {value : Value} {text : String} :
    value.same (.str text) = true ↔ value = .str text := by
  cases value <;> simp [same, numeric?]

theorem str_same_iff {value : Value} {text : String} :
    (str text).same value = true ↔ value = .str text := by
  cases value with
  | str other => simpa [same] using eq_comm
  | _ => simp [same]

end Value

namespace Store

/-- A filter by email looks at the email of a document itself. -/
theorem selects_email {email : Value} {document : Document} :
    selects [("email", email)] document = (Value.field document "email").same email := by
  have path : Path.lookup document "email" = Value.field document "email" := rfl
  simp only [selects, lookup, path, List.all_cons, List.all_nil, Bool.and_true]

end Store

namespace Handler

/-! ## The answer to a login -/

/-- The fields of a login name a collection and denote an email and a password. -/
structure Credentials (fields environment : Object) (collection : String) (email password : Value) :
    Prop where
  named : (Value.field fields "collection").orElse (.str "users") = .str collection
  email_eq : Template.resolve environment (Value.field fields "email") = .ok email
  password_eq : Template.resolve environment (Value.field fields "password") = .ok password

/-- The first user with an email, if the collection is registered. -/
def firstUser (store : Store) (collection : String) (email : Value) : Option (Option Document) :=
  (store.documents? collection).map (·.find? (Store.selects [("email", email)]))

/-- The verdict on a password for a user; without a hasher no password passes. -/
def verdict (request : Request) (world : World) (password : Value) (user : Document) :
    Except Failure Bool :=
  match request.collaborators.hasher with
  | none => .ok false
  | some hasher =>
    (hasher.verify world.calls password ((Value.field user "password").orElse (.str ""))).map
      Value.isTruthy

/-- What a login sees of a user. -/
structure Sight where
  id : Value
  email : Value
  name : Value
  verdict : Except Failure Bool

/-- What a login with a password sees of a user. -/
def sight (request : Request) (world : World) (password : Value) (user : Document) : Sight where
  id := Value.field user "_id"
  email := Value.field user "email"
  name := Value.field user "name"
  verdict := verdict request world password user

/-- What a login sees of the store: of the first user with the email, if the collection is
registered. -/
def view (request : Request) (world : World) (collection : String) (email password : Value) :
    Option (Option Sight) :=
  (firstUser world.store collection email).map (·.map (sight request world password))

/-- The answer to a login with what it sees. -/
def answer (collection : String) : Option (Option Sight) → Except Failure Value
  | none => .ok (loginRefused s!"{collection} model not found")
  | some none => .ok (loginRefused "User not found")
  | some (some user) =>
    user.verdict.map fun passed =>
      if passed then
        .obj [("ok", .bool true), ("userId", user.id), ("email", user.email), ("name", user.name)]
      else loginRefused "Invalid password"

variable {fields environment : Object} {request : Request} {world : World} {collection : String}
  {email password : Value}

theorem checkPassword_ends (collection : String) (user : Document) :
    (checkPassword request user password).Ends world fun outcome _ =>
      outcome = answer collection (some (some (sight request world password user))) := by
  cases present : request.collaborators.hasher with
  | none =>
      simp only [checkPassword, answer, sight, verdict, present]
      exact .pure rfl
  | some hasher =>
      simp only [checkPassword, answer, sight, verdict, present]
      apply Action.Ends.ask_bind
      · intro answer answered
        rw [answered]
        exact .pure rfl
      · intro failure failed
        rw [failed]
        rfl

/-- The answer to a login with an email and a password. -/
theorem result_logIn (credentials : Credentials fields environment collection email password) :
    (logIn fields environment request world).result =
      if email.isTruthy && password.isTruthy then
        answer collection (view request world collection email password)
      else .ok (loginRefused "Missing email or password") := by
  apply result_of_ends
  apply Action.Ends.ofFault_ok credentials.email_eq
  apply Action.Ends.ofFault_ok credentials.password_eq
  dsimp only
  rw [credentials.named, ← Bool.not_and]
  cases given : email.isTruthy && password.isTruthy with
  | false => exact .pure rfl
  | true =>
      have looked : (hasCollection world.store (.str collection)).mapError Failure.fault =
          .ok (world.store.has collection) := rfl
      apply Action.Ends.query_ok looked
      cases registered : world.store.documents? collection with
      | none =>
          simp only [Store.has, view, firstUser, registered]
          exact .pure rfl
      | some documents =>
          have searched : world.store.findOne collection (.obj [("email", email)]) =
              .ok (documents.find? (Store.selects [("email", email)])) := by
            rw [Store.findOne, Store.documents_eq_ok_iff.2 registered]
            rfl
          simp only [Store.has, view, firstUser, registered, Option.map_some]
          apply Action.Ends.query_ok searched
          cases documents.find? (Store.selects [("email", email)]) with
          | none => exact .pure rfl
          | some user => exact checkPassword_ends collection user

/-- Without a text for a collection a login does not look at any documents. -/
theorem result_logIn_of_not_text {name : Value}
    (named : (Value.field fields "collection").orElse (.str "users") = name)
    (other : ∀ text, name ≠ .str text)
    (email_eq : Template.resolve environment (Value.field fields "email") = .ok email)
    (password_eq : Template.resolve environment (Value.field fields "password") = .ok password) :
    (logIn fields environment request world).result =
      if email.isTruthy && password.isTruthy then
        ((hasCollection {} name).bind fun _ => name.text.map fun shown =>
          loginRefused s!"{shown} model not found").mapError .fault
      else .ok (loginRefused "Missing email or password") := by
  apply result_of_ends
  apply Action.Ends.ofFault_ok email_eq
  apply Action.Ends.ofFault_ok password_eq
  dsimp only
  rw [named, ← Bool.not_and]
  cases given : email.isTruthy && password.isTruthy with
  | false => exact .pure rfl
  | true =>
      have unseen : hasCollection world.store name = hasCollection {} name := by
        cases name with
        | str text => exact absurd rfl (other text)
        | _ => rfl
      apply Action.Ends.query_bind
      · intro registered looked
        rw [unseen, Outcome.mapError_eq_ok_iff] at looked
        split
        · exact absurd rfl (other _)
        · simp only [looked]
          apply Action.Ends.ofFault_bind
          · intro shown shown_eq
            rw [shown_eq]
            exact .pure rfl
          · intro cause unshown
            rw [unshown]
            rfl
      · intro failure failed
        rw [unseen] at failed
        cases looked : hasCollection {} name with
        | ok registered =>
            rw [looked] at failed
            cases failed
        | error cause =>
            rw [looked] at failed
            cases failed
            rfl

/-- Logins that see the same are answered alike. -/
theorem logIn_congr {other : World}
    (same : ∀ collection email password,
      Credentials fields environment collection email password →
        view request world collection email password =
          view request other collection email password) :
    (logIn fields environment request world).result =
      (logIn fields environment request other).result := by
  cases email_eq : Template.resolve environment (Value.field fields "email") with
  | error cause =>
      simp only [logIn, ofAction, email_eq]
      rfl
  | ok email =>
      cases password_eq : Template.resolve environment (Value.field fields "password") with
      | error cause =>
          simp only [logIn, ofAction, email_eq, password_eq]
          rfl
      | ok password =>
          by_cases text : ∃ collection, (Value.field fields "collection").orElse (.str "users") =
              .str collection
          · rcases text with ⟨collection, named⟩
            have credentials : Credentials fields environment collection email password :=
              ⟨named, email_eq, password_eq⟩
            rw [result_logIn credentials, result_logIn credentials, same _ _ _ credentials]
          · have other (collection : String) := fun named => text ⟨collection, named⟩
            rw [result_logIn_of_not_text rfl other email_eq password_eq,
              result_logIn_of_not_text rfl other email_eq password_eq]

/-! ## Signing up -/

/-- An insertion signs a user up: it stores data with an email that is new to the collection and a
password. -/
structure SignsUp (hasher : Hasher) (fields environment : Object) (request : Request)
    (world : World) (collection email : String) (data stored : Object) : Prop where
  configured : request.collaborators.hasher = some hasher
  named : Value.field fields "collection" = .str collection
  resolved : Template.resolveMapping environment (Value.field fields "data") = .ok (.obj data)
  email_eq : Value.field data "email" = .str email
  nonempty : email ≠ ""
  given : (Value.field data "password").isTruthy = true
  fresh : ∀ documents, world.store.documents? collection = some documents →
    ∀ document ∈ documents, Value.field document "email" ≠ .str email
  created : (insertDocument fields environment request world).result = .ok (.obj stored)

variable {hasher : Hasher} {address : String} {data stored : Object}

/-- What a sign-up stores, and where. -/
theorem SignsUp.exists_hash
    (signsUp : SignsUp hasher fields environment request world collection address data stored) :
    ∃ hash documents, hasher.hash world.calls (Value.field data "password") = .ok hash ∧
      world.store.documents? collection = some documents ∧
      (insertDocument fields environment request world).world.store =
        world.store.replace collection (documents ++ [stored]) ∧
      Value.field stored "email" = .str address ∧
      Value.field stored "name" = Value.field data "name" ∧
      Value.field stored "password" = hash := by
  obtain ⟨found, documents, resolved, document, targets, resolved_eq, hashes, stored_eq, store_eq⟩ :=
    (insertDocument_effect fields environment request world).of_inserted signsUp.created
  obtain rfl : found = collection := by
    have named := (requireCollection_eq_ok_iff.1 targets.named).1
    exact Value.str.inj (named.symm.trans signsUp.named)
  obtain rfl : resolved = data :=
    Value.obj.inj (Except.ok.inj (resolved_eq.symm.trans signsUp.resolved))
  cases hashes with
  | absent untouched => cases untouched.symm.trans signsUp.given
  | @hashed other hash given present answered =>
      obtain rfl : other = hasher := Option.some.inj (present.symm.trans signsUp.configured)
      have kept (name : String) (other : name ≠ "_id") (unhashed : name ≠ "password") :
          Value.field stored name = Value.field resolved name := by
        rw [stored_eq, Value.field_setDefault, if_neg (by simpa using other.symm),
          Value.field_set, if_neg (by simpa using unhashed.symm)]
      refine ⟨hash, documents, answered, targets.present, store_eq, ?_, ?_, ?_⟩
      · rw [kept "email" (by decide) (by decide), signsUp.email_eq]
      · exact kept "name" (by decide) (by decide)
      · rw [stored_eq, Value.field_setDefault, if_neg (by decide), Value.field_set, if_pos rfl]

theorem firstUser_replace {store : Store} {documents : List Document} (name : String)
    (registered : store.documents? collection = some documents) (others : List Document) :
    firstUser (store.replace collection others) name email =
      if collection = name then some (others.find? (Store.selects [("email", email)]))
      else firstUser store name email := by
  unfold firstUser
  rw [Store.documents?_replace]
  split
  · rename_i same
    rw [← same, registered]
    rfl
  · rfl

/-- Behind users with other emails, a user is the first with an email. -/
theorem find?_append_of_fresh {documents : List Document} {user : Document}
    (fresh : ∀ document ∈ documents, Value.field document "email" ≠ .str address)
    (email_eq : Value.field user "email" = .str address) :
    (documents ++ [user]).find? (Store.selects [("email", .str address)]) = some user := by
  have unselected : documents.find? (Store.selects [("email", .str address)]) = none := by
    rw [List.find?_eq_none]
    intro document member selected
    rw [Store.selects_email, Value.same_str_iff] at selected
    exact fresh document member selected
  have selected : Store.selects [("email", .str address)] user = true := by
    rw [Store.selects_email, email_eq, Value.str_same_iff]
  rw [List.find?_append, unselected, Option.none_or, List.find?_cons_of_pos selected]

/-- A user at the end is not found under another email. -/
theorem find?_append_of_ne {documents : List Document} {user : Document}
    (email_eq : Value.field user "email" = .str address) (other : email ≠ .str address) :
    (documents ++ [user]).find? (Store.selects [("email", email)]) =
      documents.find? (Store.selects [("email", email)]) := by
  have unselected : ¬ Store.selects [("email", email)] user = true := by
    rw [Store.selects_email, email_eq, Value.str_same_iff]
    exact other
  rw [List.find?_append, List.find?_cons_of_neg unselected, List.find?_nil, Option.or_none]

/-- Who asks for another email than that of a user at the end, or in another collection, sees the
same as without that user. -/
theorem view_append {earlier : World} {documents : List Document} {user : Document}
    (registered : earlier.store.documents? collection = some documents)
    (appended : world.store = earlier.store.replace collection (documents ++ [user]))
    (email_eq : Value.field user "email" = .str address)
    (alike : sight request world password = sight request earlier password) {name : String}
    (another : collection = name → email ≠ .str address) :
    view request world name email password = view request earlier name email password := by
  rw [view, view, alike, appended, firstUser_replace name registered]
  split
  · rename_i same
    rw [find?_append_of_ne email_eq (another same), firstUser, ← same, registered]
    rfl
  · rfl

/-- A login as the first user with the email follows the verdict on the password. -/
theorem result_logIn_of_firstUser (configured : request.collaborators.hasher = some hasher)
    (credentials : Credentials fields environment collection email password) {user : Document}
    (found : firstUser world.store collection email = some (some user))
    (complete : (email.isTruthy && password.isTruthy) = true)
    (kept : (Value.field user "password").isTruthy = true) {passed : Value}
    (checked : hasher.verify world.calls password (Value.field user "password") = .ok passed) :
    (logIn fields environment request world).result =
      .ok (if passed.isTruthy then loginAccepted user else loginRefused "Invalid password") := by
  have verdict_eq : verdict request world password user = .ok passed.isTruthy := by
    simp only [verdict, configured, Value.orElse, kept, if_true, checked]
    rfl
  rw [result_logIn credentials, if_pos complete, view, found]
  simp only [Option.map_some, answer, sight, verdict_eq]
  rfl

/-! ## Main result -/

/-- What logins answer once a store has become another by a sign-up. -/
structure LogsIn (hasher : Hasher) (collection address : String) (data stored : Object)
    (hash : Value) (before after : Store) : Prop where
  /-- The user logs in with the password. -/
  accepted : ∀ fields environment request world, request.collaborators.hasher = some hasher →
    world.store = after →
    Credentials fields environment collection (.str address) (Value.field data "password") →
      (logIn fields environment request world).result =
        .ok (.obj [("ok", .bool true), ("userId", Value.field stored "_id"),
          ("email", .str address), ("name", Value.field data "name")])
  /-- Another password is refused, if it counts as given. -/
  refused : ∀ fields environment request world attempt verdict,
    request.collaborators.hasher = some hasher → world.store = after →
    Credentials fields environment collection (.str address) attempt →
    attempt.isTruthy = true → hasher.verify world.calls attempt hash = .ok verdict →
    verdict.isTruthy = false →
      (logIn fields environment request world).result = .ok (loginRefused "Invalid password")
  /-- With another email or in another collection, a login is answered as it was, by a hasher that
  has not changed its mind. -/
  unaffected : ∀ fields environment request world earlier,
    request.collaborators.hasher = some hasher → world.store = after → earlier.store = before →
    (∀ attempt kept,
      hasher.verify earlier.calls attempt kept = hasher.verify world.calls attempt kept) →
    (∀ attempt, ¬ Credentials fields environment collection (.str address) attempt) →
      (logIn fields environment request world).result =
        (logIn fields environment request earlier).result

/-- After a sign-up the user logs in with the password and with no other that counts as given, and
everybody else is answered as before.  An answer shows nothing of the store but the id, the email,
the name and the verdict on the password of the first user with the email. -/
theorem logIn_after_signUp (hasher : Hasher) (agrees : hasher.Agrees) (fields environment : Object)
    (request : Request) (world : World) (collection address : String) (data stored : Object)
    (signsUp : SignsUp hasher fields environment request world collection address data stored) :
    (∃ hash, hasher.hash world.calls (Value.field data "password") = .ok hash ∧
      LogsIn hasher collection address data stored hash world.store
        (insertDocument fields environment request world).world.store) ∧
      ∀ login bindings caller one other,
        (∀ name email attempt, Credentials login bindings name email attempt →
          view caller one name email attempt = view caller other name email attempt) →
        (logIn login bindings caller one).result = (logIn login bindings caller other).result := by
  rcases signsUp.exists_hash with
    ⟨hash, documents, hashed, registered, store_eq, email_eq, name_eq, password_eq⟩
  rcases agrees.text _ _ hash hashed with ⟨text, text_ne, rfl⟩
  have kept : (Value.field stored "password").isTruthy = true := by
    rw [password_eq]
    simp [Value.isTruthy, text_ne]
  have present : (Value.str address).isTruthy = true := by
    simp [Value.isTruthy, signsUp.nonempty]
  have found : firstUser (insertDocument fields environment request world).world.store collection
      (.str address) = some (some stored) := by
    rw [store_eq, firstUser_replace collection registered, if_pos rfl,
      find?_append_of_fresh (signsUp.fresh documents registered) email_eq]
  constructor
  · refine ⟨.str text, hashed, ?accepted, ?refused, ?unaffected⟩
    case accepted =>
      intro login bindings caller later configured after credentials
      rcases agrees.accepts _ _ _ hashed later.calls with ⟨passed, checked, accepts⟩
      have complete : ((Value.str address).isTruthy && (Value.field data "password").isTruthy) =
          true := by rw [present, signsUp.given, Bool.and_true]
      rw [result_logIn_of_firstUser configured credentials (after ▸ found) complete kept
        (password_eq ▸ checked), if_pos accepts, loginAccepted, email_eq, name_eq]
    case refused =>
      intro login bindings caller later attempt verdict configured after credentials given checked
        refuses
      have complete : ((Value.str address).isTruthy && attempt.isTruthy) = true := by
        rw [present, given, Bool.and_true]
      rw [result_logIn_of_firstUser configured credentials (after ▸ found) complete kept
        (password_eq ▸ checked), refuses, if_neg Bool.false_ne_true]
    case unaffected =>
      intro login bindings caller later earlier configured after before alike others
      apply logIn_congr
      intro name email attempt credentials
      have sees : sight caller later attempt = sight caller earlier attempt := by
        funext user
        simp only [sight, verdict, configured, alike]
      apply view_append (before ▸ registered) (after.trans (before ▸ store_eq)) email_eq sees
      rintro rfl rfl
      exact others attempt credentials
  · intro login bindings caller one other same
    exact logIn_congr same

/-! Ada signs up, and logs in with one password or another. -/

/-- The step that signs Ada up. -/
def signUpAda : Object :=
  [("collection", .str "users"),
    ("data", .obj [("_id", .str "u1"), ("email", .str "ada@example.com"),
      ("password", .str "secret"), ("name", .str "Ada")])]

/-- A login of Ada with a password. -/
def logInAda (password : String) : Object :=
  [("email", .str "ada@example.com"), ("password", .str password)]

/-- A request with a hasher. -/
def hashingRequest : Request where
  executionId := "first"
  collaborators := { hasher := some .marking }

/-- A world with an empty collection of users. -/
def emptyUsers : World := { store := .ofNames ["users"] }

theorem signsUp_ada :
    SignsUp .marking signUpAda [] hashingRequest emptyUsers "users" "ada@example.com"
      [("_id", .str "u1"), ("email", .str "ada@example.com"), ("password", .str "secret"),
        ("name", .str "Ada")]
      [("_id", .str "u1"), ("email", .str "ada@example.com"), ("password", .str "hash of secret"),
        ("name", .str "Ada")] where
  configured := rfl
  named := rfl
  resolved := by with_unfolding_all rfl
  email_eq := rfl
  nonempty := by decide
  given := by decide
  fresh := by
    intro documents registered document member
    rw [Store.isVacant_ofNames _ "users" documents registered] at member
    cases member
  created := by with_unfolding_all rfl

theorem credentials_ada (password : String)
    (literal : Template.resolve [] (.str password) = .ok (.str password)) :
    Credentials (logInAda password) [] "users" (.str "ada@example.com") (.str password) where
  named := rfl
  email_eq := by with_unfolding_all rfl
  password_eq := literal

/-- Ada logs in with the password that she gave, and not with a guess. -/
theorem logIn_after_signUp_ada :
    let after := (insertDocument signUpAda [] hashingRequest emptyUsers).world
    (logIn (logInAda "secret") [] hashingRequest after).result =
        .ok (.obj [("ok", .bool true), ("userId", .str "u1"), ("email", .str "ada@example.com"),
          ("name", .str "Ada")]) ∧
      (logIn (logInAda "guess") [] hashingRequest after).result =
        .ok (loginRefused "Invalid password") := by
  intro after
  obtain ⟨⟨hash, hashed, logsIn⟩, -⟩ :=
    logIn_after_signUp .marking Hasher.marking_agrees signUpAda [] hashingRequest emptyUsers "users"
      "ada@example.com" _ _ signsUp_ada
  obtain rfl : .str "hash of secret" = hash := Except.ok.inj hashed
  constructor
  · exact logsIn.accepted _ _ _ after rfl rfl
      (credentials_ada "secret" (by with_unfolding_all rfl))
  · exact logsIn.refused _ _ _ after (.str "guess") (.bool false) rfl rfl
      (credentials_ada "guess" (by with_unfolding_all rfl)) (by decide) (by with_unfolding_all rfl)
      rfl

/-- An empty password is answered in another way than a wrong one. -/
theorem wrongPassword_not_always_invalid :
    ¬ ∀ (hasher : Hasher), hasher.Agrees → ∀ (fields environment : Object) (request : Request)
      (world : World) (collection address : String) (data stored : Object),
      SignsUp hasher fields environment request world collection address data stored →
      ∀ (hash attempt verdict : Value) (login : Object) (later : World),
        hasher.hash world.calls (Value.field data "password") = .ok hash →
        later.store = (insertDocument fields environment request world).world.store →
        Credentials login environment collection (.str address) attempt →
        hasher.verify later.calls attempt hash = .ok verdict → verdict.isTruthy = false →
          (logIn login environment request later).result = .ok (loginRefused "Invalid password") := by
  intro refuses
  have missing : (logIn (logInAda "") [] hashingRequest
      (insertDocument signUpAda [] hashingRequest emptyUsers).world).result =
        .ok (loginRefused "Missing email or password") := by with_unfolding_all rfl
  have invalid := refuses .marking Hasher.marking_agrees signUpAda [] hashingRequest emptyUsers
    "users" "ada@example.com" _ _ signsUp_ada (.str "hash of secret") (.str "") (.bool false)
    (logInAda "") (insertDocument signUpAda [] hashingRequest emptyUsers).world rfl rfl
    (credentials_ada "" (by with_unfolding_all rfl)) (by with_unfolding_all rfl) rfl
  rw [missing] at invalid
  simp [loginRefused] at invalid

end Handler

end Workflow
