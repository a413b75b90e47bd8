import Workflow.Handler.Basic
import Workflow.Template.Resolve

/-!
# Finding, inserting, updating and deleting documents

Each of these steps names a registered collection.  Filters, data and patches are resolved against
the environment.
-/

namespace Workflow.Handler

/-- Whether a collection of this name is registered; an array or an object names none. -/
def hasCollection (store : Store) (name : Value) : Except Fault Bool :=
  match name with
  | .str name => .ok (store.has name)
  | .arr _ | .obj _ => .error (.unhashable name.type)
  | _ => .ok false

/-- The error that a collection is not registered. -/
def collectionMissing (store : Store) (name : Value) : Failure :=
  match name.text with
  | .ok shown => .step (.modelNotFound name shown store.names)
  | .error fault => .fault fault

/-- The registered collection that a step names. -/
def requireCollection (fields : Object) (store : Store) : Except Failure String :=
  let name := Value.field fields "collection"
  if !name.isTruthy then .error (collectionMissing store name)
  else
    match hasCollection store name, name with
    | .error fault, _ => .error (.fault fault)
    | .ok true, .str collection => .ok collection
    | .ok _, _ => .error (collectionMissing store name)

/-- Whether a step is told to act on all selected documents. -/
def isMany : Value → Bool
  | .str word => ["many", "findMany", "updateMany", "deleteMany"].contains word
  | _ => false

/-- The field under its first name when present, else under its second. -/
def fieldOr (fields : Object) (first second : String) : Value :=
  (Object.get? fields first).getD (Value.field fields second)

/-- The step that finds documents. -/
def findDocuments : Handler := ofAction fun fields environment _ => do
  let collection ← Action.query (requireCollection fields)
  let filter ← Action.ofFault (Template.resolveMapping environment (Value.field fields "filters"))
  if isMany (Value.field fields "findType") then
    let found ← Action.query fun store => store.findMany collection filter
    return .arr (found.map .obj)
  else
    let found ← Action.query fun store => store.findOne collection filter
    return Store.documentReport found

/-- The data of an insertion with its password hashed, if it has one. -/
def hashPassword (request : Request) (data : Object) : Action Object := do
  let password := Value.field data "password"
  if password.isTruthy then
    match request.collaborators.hasher with
    | none => Action.fail .noHasher
    | some hasher =>
      let hashed ← Action.ask fun call => hasher.hash call password
      return Object.set data "password" hashed
  else return data

/-- The step that inserts a document. -/
def insertDocument : Handler := ofAction fun fields environment request => do
  let collection ← Action.query (requireCollection fields)
  let data ← Action.ofFault (Template.resolveMapping environment (Value.field fields "data"))
  if !data.isTruthy then Action.fail (.emptyDocument collection)
  else
    match data with
    | .obj data =>
      let document ← hashPassword request data
      let stored ← Action.create collection (.obj document)
      return .obj stored
    | other => Action.ofFault (.error (.noOperation other.type "get"))

/-- The step that updates documents. -/
def updateDocuments : Handler := ofAction fun fields environment _ => do
  let collection ← Action.query (requireCollection fields)
  let filter ← Action.ofFault
    (Template.resolveMapping environment (fieldOr fields "filters" "filter"))
  let patch ← Action.ofFault (Template.resolveMapping environment (fieldOr fields "update" "data"))
  if isMany (Value.field fields "updateType") then
    let count ← Action.change fun store => store.updateMany collection filter patch
    return Store.updateReport count
  else
    let updated ← Action.change fun store => store.updateOne collection filter patch
    return Store.documentReport updated

/-- The step that deletes documents. -/
def deleteDocuments : Handler := ofAction fun fields environment _ => do
  let collection ← Action.query (requireCollection fields)
  let filter ← Action.ofFault
    (Template.resolveMapping environment (fieldOr fields "filters" "filter"))
  if isMany (Value.field fields "deleteType") then
    let count ← Action.change fun store => store.deleteMany collection filter
    return Store.deleteReport count
  else
    let count ← Action.change fun store => store.deleteOne collection filter
    return Store.deleteReport count

end Workflow.Handler
