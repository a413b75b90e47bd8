import Workflow.Error
import Workflow.Path
import Workflow.Value.Equality
import Workflow.Value.Pairs

/-!
# The document store

Documents are kept in named collections, in the order of their creation.  A filter selects the
documents that have the given values at the given paths; a patch sets fields of a document.  Every
document has an id.
-/

namespace Workflow

/-- A stored document. -/
abbrev Document := Object

/-- Named collections of documents, in order of registration. -/
structure Store where
  collections : List (String × List Document) := []

namespace Store

/-- The names of the collections. -/
def names (store : Store) : List String := store.collections.map (·.1)

/-- The documents of a registered collection. -/
def documents? (store : Store) (collection : String) : Option (List Document) :=
  (store.collections.find? (·.1 = collection)).map (·.2)

/-- Whether a collection is registered. -/
def has (store : Store) (collection : String) : Bool := (store.documents? collection).isSome

/-- Register a collection; one that is registered keeps its documents. -/
def register (store : Store) (collection : String) : Store :=
  if store.has collection then store else ⟨store.collections ++ [(collection, [])]⟩

/-- A store with the given empty collections. -/
def ofNames (names : List String) : Store := names.foldl register {}

/-- Replace the documents of one collection. -/
def replace (store : Store) (collection : String) (documents : List Document) : Store :=
  ⟨store.collections.map fun entry =>
    if entry.1 = collection then (entry.1, documents) else entry⟩

theorem names_replace (store : Store) (collection : String) (documents : List Document) :
    (store.replace collection documents).names = store.names := by
  simp only [names, replace, List.map_map]
  apply List.map_congr_left
  intro entry _
  simp only [Function.comp_apply]
  split <;> rfl

/-- Replacing the documents of a registered collection changes only that collection. -/
theorem documents?_replace (store : Store) (collection : String) (documents : List Document)
    (wanted : String) :
    (store.replace collection documents).documents? wanted =
      if collection = wanted then (store.documents? wanted).map fun _ => documents
      else store.documents? wanted := by
  obtain ⟨collections⟩ := store
  simp only [documents?, replace]
  induction collections with
  | nil => simp
  | cons entry rest ih =>
    obtain ⟨known, kept⟩ := entry
    by_cases here : known = collection
    · subst here
      by_cases same : known = wanted
      · simp [same]
      · simpa [same] using ih
    · by_cases found : known = wanted
      · subst found
        simp [here, Ne.symm here]
      · simpa [here, found] using ih

/-- The documents of a collection, or the error that it is not registered. -/
def documents (store : Store) (collection : String) : Except Failure (List Document) :=
  match store.documents? collection with
  | some documents => .ok documents
  | none =>
    .error (StepError.modelNotFound (.str collection) collection store.names : StepError)

/-- The value of a document under a name of a filter.  A text is a path; any other name leads
nowhere. -/
def lookup (document : Document) : Name → Value
  | .text path => Path.lookup document path
  | _ => .null

/-- Whether a document has the wanted value under every name of a filter. -/
def selects (filter : Object) (document : Document) : Bool :=
  filter.all fun wanted => (lookup document wanted.1).same wanted.2

/-- Whether a name can stand in a filter: a text, or a name that does not count as given. -/
def isPath : Name → Bool
  | .text _ => true
  | name => !(Value.ofName name).isTruthy

/-- The filter that given fields denote.  A name that is no path is a fault as soon as a document
meets the fields before it; when none does, these select nothing, as the whole filter would. -/
def readFields (fields : Object) (documents : List Document) : Except Failure Object :=
  let before := fields.takeWhile (isPath ·.1)
  match fields.dropWhile (isPath ·.1) with
  | [] => .ok fields
  | wanted :: _ =>
    if documents.any (selects before) then
      .error (Fault.noOperation (Value.ofName wanted.1).type "split" : Fault)
    else .ok before

/-- The filter that a value denotes: one that is not given selects everything, and one that is no
object is a fault as soon as there is a document to look at. -/
def readFilter (filter : Value) (documents : List Document) : Except Failure Object :=
  if !filter.isTruthy then .ok []
  else
    match filter with
    | .obj fields => readFields fields documents
    | other =>
      if documents.isEmpty then .ok []
      else .error (Fault.noOperation other.type "items" : Fault)

/-- The first selected document. -/
def findOne (store : Store) (collection : String) (filter : Value) :
    Except Failure (Option Document) := do
  let documents ← store.documents collection
  let filter ← readFilter filter documents
  return documents.find? (selects filter)

/-- All selected documents. -/
def findMany (store : Store) (collection : String) (filter : Value) :
    Except Failure (List Document) := do
  let documents ← store.documents collection
  let filter ← readFilter filter documents
  return documents.filter (selects filter)

/-- Append a document; it gets the id `fresh` unless it has one. -/
def create (store : Store) (collection : String) (document : Document) (fresh : String) :
    Except Failure (Document × Store) := do
  let documents ← store.documents collection
  let stored := Object.setDefault document "_id" (.str fresh)
  return (stored, store.replace collection (documents ++ [stored]))

/-- Patch the first selected document: the patched document, or the fault that stopped the patch,
and the documents afterwards. -/
def patchFirst (filter : Object) (patch : Value) :
    List Document → Except Fault (Option Document) × List Document
  | [] => (.ok none, [])
  | document :: rest =>
    if selects filter document then
      match Pairs.update document patch with
      | (patched, none) => (.ok (some patched), patched :: rest)
      | (patched, some fault) => (.error fault, patched :: rest)
    else
      let (result, others) := patchFirst filter patch rest
      (result, document :: others)

/-- Patch every selected document: their number, or the fault that stopped a patch, and the
documents afterwards. -/
def patchAll (filter : Object) (patch : Value) :
    List Document → Except Fault Nat × List Document
  | [] => (.ok 0, [])
  | document :: rest =>
    if selects filter document then
      match Pairs.update document patch with
      | (patched, none) =>
        let (count, others) := patchAll filter patch rest
        (count.map (· + 1), patched :: others)
      | (patched, some fault) => (.error fault, patched :: rest)
    else
      let (count, others) := patchAll filter patch rest
      (count, document :: others)

/-- Run a change of one collection's selected documents. -/
def change {α : Type} (store : Store) (collection : String) (filter : Value)
    (act : Object → List Document → Except Fault α × List Document) : Except Failure α × Store :=
  match store.documents collection with
  | .error failure => (.error failure, store)
  | .ok documents =>
    match readFilter filter documents with
    | .error failure => (.error failure, store)
    | .ok filter =>
      let (result, changed) := act filter documents
      (result.mapError .fault, store.replace collection changed)

/-- Patch the first selected document and return it. -/
def updateOne (store : Store) (collection : String) (filter patch : Value) :
    Except Failure (Option Document) × Store :=
  store.change collection filter fun filter documents => patchFirst filter patch documents

/-- Patch all selected documents and return their number. -/
def updateMany (store : Store) (collection : String) (filter patch : Value) :
    Except Failure Nat × Store :=
  store.change collection filter fun filter documents => patchAll filter patch documents

/-- Remove the first selected document. -/
def removeFirst (filter : Object) : List Document → Nat × List Document
  | [] => (0, [])
  | document :: rest =>
    if selects filter document then (1, rest)
    else
      let (count, others) := removeFirst filter rest
      (count, document :: others)

/-- Delete the first selected document and return the number of deletions. -/
def deleteOne (store : Store) (collection : String) (filter : Value) :
    Except Failure Nat × Store :=
  store.change collection filter fun filter documents =>
    let (count, kept) := removeFirst filter documents
    (.ok count, kept)

/-- Delete all selected documents and return their number. -/
def deleteMany (store : Store) (collection : String) (filter : Value) :
    Except Failure Nat × Store :=
  store.change collection filter fun filter documents =>
    let kept := documents.filter (!selects filter ·)
    (.ok (documents.length - kept.length), kept)

/-- What a bulk update reports. -/
def updateReport (count : Nat) : Value :=
  .obj [("matchedCount", .ofNat count), ("modifiedCount", .ofNat count)]

/-- What a deletion reports. -/
def deleteReport (count : Nat) : Value := .obj [("deletedCount", .ofNat count)]

/-- A document that may be absent. -/
def documentReport : Option Document → Value
  | none => .null
  | some document => .obj document

/-- All collections with their documents. -/
def toValue (store : Store) : Value :=
  .obj (store.collections.map fun entry => (entry.1, .arr (entry.2.map .obj)))

end Store

end Workflow
