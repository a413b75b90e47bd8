import Workflow.Graph.Basic
import Workflow.Identifier
import Workflow.Moment
import Workflow.Store
import Workflow.Text.Lowercase
import Workflow.Value.Text

/-!
# Handlers and what they act on

A handler carries out one kind of step.  It reads the step's fields, the environment and the request
it runs for, acts on the world, and replies with a value or a failure.

The collaborators outside this library (password hasher, token verifier, mail transport) are
functions of the moment at which they are asked, counted in calls, so that any behaviour over time
can be stated of them.  The mails handed to the transport are kept in the world's outbox.
-/

namespace Workflow

/-- A mail as it is handed to a transport. -/
structure Mail where
  recipient : String
  subject : String
  body : String
deriving DecidableEq

/-- What a workflow acts on. -/
structure World where
  store : Store := {}
  /-- Identifiers issued so far. -/
  issued : Nat := 0
  /-- Calls of collaborators so far. -/
  calls : Nat := 0
  /-- Mails handed to the transport, in order. -/
  outbox : List Mail := []
  /-- What the clock shows. -/
  now : Moment := ⟨0⟩

/-- An action on the world; what it did stays done when it fails. -/
abbrev Action (α : Type) := ExceptT Failure (StateM World) α

namespace World

/-- Draw the number of a fresh identifier. -/
def draw (world : World) : Nat × World :=
  (world.issued + 1, { world with issued := world.issued + 1 })

/-- Count a call of a collaborator. -/
def tick (world : World) : World := { world with calls := world.calls + 1 }

end World

/-- Hashes passwords and checks them. -/
structure Hasher where
  hash : Nat → Value → Except Failure Value
  verify : Nat → Value → Value → Except Failure Value

/-- Checks a token and returns its claims. -/
structure Verifier where
  verify : Nat → String → Except Failure Value

/-- Delivers a mail, knowing those handed to it before, and answers. -/
structure Transport where
  send : Nat → List Mail → Mail → Except Failure Value

/-- The collaborators that are present. -/
structure Collaborators where
  hasher : Option Hasher := none
  verifier : Option Verifier := none
  transport : Option Transport := none

/-- The request that an execution serves. -/
structure Request where
  executionId : String
  collaborators : Collaborators := {}
  headers : Object := []

/-- The value of the first header with a name, in any letter case. -/
def Object.header (headers : Object) (name : String) : Value :=
  let wanted := Text.lowercase name
  match headers.find? fun header => Text.lowercase header.1.shown = wanted with
  | some header => header.2
  | none => .null

/-- What a handler replies.  The value is its own, and of the objects that it was handed it changes
only the one bound to `input`. -/
structure Reply where
  result : Except Failure Value
  world : World
  /-- Fields that the handler set in the very object bound to `input`. -/
  writes : Object := []

/-- Carries out one kind of step: fields, environment, request and world to a reply. -/
abbrev Handler := Object → Object → Request → World → Reply

namespace Handler

/-- The handler that runs an action and leaves the environment alone. -/
def ofAction (act : Object → Object → Request → Action Value) : Handler :=
  fun fields environment request world =>
    let (result, world) := (act fields environment request).run.run world
    { result, world }

end Handler

namespace Action

/-- Carry on with a result that does not touch the world. -/
def ofExcept {α : Type} (result : Except Failure α) : Action α :=
  fun world => (result, world)

/-- Carry on with a result that may be a fault. -/
def ofFault {α : Type} (result : Except Fault α) : Action α := ofExcept (result.mapError .fault)

/-- Fail with an error of the step. -/
def fail {α : Type} (error : StepError) : Action α := ofExcept (.error (.step error))

/-- Look at the store. -/
def query {α : Type} (look : Store → Except Failure α) : Action α :=
  fun world => (look world.store, world)

/-- Change the store. -/
def change {α : Type} (act : Store → Except Failure α × Store) : Action α :=
  fun world =>
    let (result, store) := act world.store
    (result, { world with store })

/-- Ask a collaborator. -/
def ask {α : Type} (answer : Nat → Except Failure α) : Action α :=
  fun world => (answer world.calls, world.tick)

/-- A stored document once its id has been written to the log, which takes the text of the id. -/
def announce (stored : Document) : Except Failure Document :=
  match (Value.field stored "_id").text with
  | .ok _ => .ok stored
  | .error cause => .error (.fault cause)

/-- Append a document to a collection.  An identifier is drawn even if the document has an id, and
a document stays stored when its id cannot be announced. -/
def create (collection : String) (document : Value) : Action Document :=
  fun world =>
    match world.store.documents collection, document with
    | .error failure, _ => (.error failure, world)
    | .ok _, .obj fields =>
      let (number, world) := world.draw
      match world.store.create collection fields (Identifier.plain number) with
      | .error failure => (.error failure, world)
      | .ok (stored, store) => (announce stored, { world with store })
    | .ok _, other => (.error (Fault.noOperation other.type "setdefault" : Fault), world)

end Action

end Workflow
