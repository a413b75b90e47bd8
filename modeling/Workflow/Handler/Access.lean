import Workflow.Handler.Documents

/-!
# Authentication and login

The authentication step accepts a request by the bearer token in its headers.  The login step checks
an email and a password against a collection and reports the outcome as a value.
-/

namespace Workflow.Handler

/-- What comes before the token in the header. -/
def bearerMark : String := "Bearer "

/-- The text after a given beginning. -/
def after? (beginning text : String) : Option String :=
  if beginning.toList.isPrefixOf text.toList then
    some (String.ofList (text.toList.drop beginning.length))
  else none

/-- The bearer token in the headers. -/
def bearerToken (headers : Object) : Except Failure String :=
  let header := Object.header headers "authorization"
  if !header.isTruthy then .error (.step (.auth .noBearer))
  else
    match header.text with
    | .error cause => .error (.fault cause)
    | .ok text =>
      match after? bearerMark text with
      | some token => .ok (Text.strip token)
      | none => .error (.step (.auth .noBearer))

/-- The authentication step. -/
def authenticate : Handler := ofAction fun _ _ request => do
  let token ← Action.ofExcept (bearerToken request.headers)
  match request.collaborators.verifier with
  | none => Action.fail (.auth .noVerifier)
  | some verifier => Action.ask fun call => verifier.verify call token

/-- The outcome of a refused login. -/
def loginRefused (reason : String) : Value := .obj [("ok", .bool false), ("error", .str reason)]

/-- The outcome of a login as a user. -/
def loginAccepted (user : Document) : Value :=
  .obj [("ok", .bool true), ("userId", Value.field user "_id"),
    ("email", Value.field user "email"), ("name", Value.field user "name")]

/-- Check a password against what is stored for a user. -/
def checkPassword (request : Request) (user : Document) (password : Value) : Action Value := do
  match request.collaborators.hasher with
  | none => return loginRefused "Invalid password"
  | some hasher =>
    let stored := (Value.field user "password").orElse (.str "")
    let verdict ← Action.ask fun call => hasher.verify call password stored
    return if verdict.isTruthy then loginAccepted user else loginRefused "Invalid password"

/-- The login step. -/
def logIn : Handler := ofAction fun fields environment request => do
  let email ← Action.ofFault (Template.resolve environment (Value.field fields "email"))
  let password ← Action.ofFault (Template.resolve environment (Value.field fields "password"))
  let name := (Value.field fields "collection").orElse (.str "users")
  if !email.isTruthy || !password.isTruthy then
    return loginRefused "Missing email or password"
  let registered ← Action.query fun store => (hasCollection store name).mapError .fault
  match registered, name with
  | true, .str collection =>
    let user ← Action.query fun store => store.findOne collection (.obj [("email", email)])
    match user with
    | none => return loginRefused "User not found"
    | some user => checkPassword request user password
  | _, name =>
    let shown ← Action.ofFault name.text
    return loginRefused s!"{shown} model not found"

end Workflow.Handler
