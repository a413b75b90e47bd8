import Workflow.Proofs.Handler.Action
import Workflow.Proofs.Outcome
import Workflow.Proofs.Store.Changes

/-!
# The journal of a store

A journal keeps, for each collection, every document in the form in which it was created, with the
patches of the updates that selected it and whether it has been deleted.  It only grows: a creation is
added at its end, and no creation leaves it.  A store holds the documents of its journal that are
alive, in the order of their creation, each with its patches applied.
-/

namespace Workflow.Store

/-- A filter as it is written: texts with the values that are wanted under them. -/
abbrev Filter := List (String × Value)

/-- The object that a filter is. -/
def Filter.toObject (filter : Filter) : Object := filter.map fun wanted => (.text wanted.1, wanted.2)

/-- The failure of an outcome, if it is one. -/
def failure? {α : Type} : Except Failure α → Option Failure
  | .ok _ => none
  | .error failure => some failure

/-- An operation on a store.  A creation comes with the id that is drawn for it. -/
inductive Operation where
  | register (collection : String)
  | findOne (collection : String) (filter : Filter)
  | findMany (collection : String) (filter : Filter)
  | create (collection : String) (document : Object) (fresh : String)
  | updateOne (collection : String) (filter : Filter) (patch : Object)
  | updateMany (collection : String) (filter : Filter) (patch : Object)
  | deleteOne (collection : String) (filter : Filter)
  | deleteMany (collection : String) (filter : Filter)

namespace Operation

/-- The collection that an operation is about. -/
def collection : Operation → String
  | .register collection | .findOne collection _ | .findMany collection _ | .create collection _ _
  | .updateOne collection _ _ | .updateMany collection _ _ | .deleteOne collection _
  | .deleteMany collection _ => collection

/-- The store after an operation. -/
def act (store : Store) : Operation → Store
  | .register collection => store.register collection
  | .findOne _ _ | .findMany _ _ => store
  | .create collection document fresh =>
    match store.create collection document fresh with
    | .ok (_, after) => after
    | .error _ => store
  | .updateOne collection filter patch =>
    (store.updateOne collection (.obj filter.toObject) (.obj patch)).2
  | .updateMany collection filter patch =>
    (store.updateMany collection (.obj filter.toObject) (.obj patch)).2
  | .deleteOne collection filter => (store.deleteOne collection (.obj filter.toObject)).2
  | .deleteMany collection filter => (store.deleteMany collection (.obj filter.toObject)).2

/-- Why a store refuses an operation. -/
def refusal? (store : Store) : Operation → Option Failure
  | .register _ => none
  | .findOne collection filter => failure? (store.findOne collection (.obj filter.toObject))
  | .findMany collection filter => failure? (store.findMany collection (.obj filter.toObject))
  | .create collection document fresh => failure? (store.create collection document fresh)
  | .updateOne collection filter patch =>
    failure? (store.updateOne collection (.obj filter.toObject) (.obj patch)).1
  | .updateMany collection filter patch =>
    failure? (store.updateMany collection (.obj filter.toObject) (.obj patch)).1
  | .deleteOne collection filter =>
    failure? (store.deleteOne collection (.obj filter.toObject)).1
  | .deleteMany collection filter =>
    failure? (store.deleteMany collection (.obj filter.toObject)).1

/-- The number of deletions that an operation reports. -/
def deletedCount (store : Store) : Operation → Nat
  | .deleteOne collection filter =>
    (store.deleteOne collection (.obj filter.toObject)).1.toOption.getD 0
  | .deleteMany collection filter =>
    (store.deleteMany collection (.obj filter.toObject)).1.toOption.getD 0
  | _ => 0

/-- The number of documents that an operation creates. -/
def createdCount (store : Store) : Operation → Nat
  | .create collection _ _ => if store.has collection then 1 else 0
  | _ => 0

end Operation

/-! ## Journals -/

/-- A document as it was created, and what has become of it. -/
structure Creation where
  created : Document
  /-- The patches of the updates that selected it, in order. -/
  patches : List Object := []
  deleted : Bool := false

namespace Creation

/-- The document with its patches applied. -/
def current (creation : Creation) : Document := creation.patches.foldl Object.merge creation.created

/-- Whether a creation is alive and its document is selected. -/
def isSelected (filter : Filter) (creation : Creation) : Bool :=
  !creation.deleted && selects filter.toObject creation.current

/-- A further patch. -/
def patch (patch : Object) (creation : Creation) : Creation :=
  { creation with patches := creation.patches ++ [patch] }

/-- The creation is dead. -/
def delete (creation : Creation) : Creation := { creation with deleted := true }

/-- The documents that are alive. -/
def living (creations : List Creation) : List Document :=
  (creations.filter (!·.deleted)).map current

/-- Change the first selected creation. -/
def changeFirst (filter : Filter) (change : Creation → Creation) : List Creation → List Creation
  | [] => []
  | creation :: rest =>
    if creation.isSelected filter then change creation :: rest
    else creation :: changeFirst filter change rest

/-- Change every selected creation. -/
def changeAll (filter : Filter) (change : Creation → Creation) (creations : List Creation) :
    List Creation :=
  creations.map fun creation => if creation.isSelected filter then change creation else creation

end Creation

/-- The creations of each registered collection. -/
abbrev Journal := String → Option (List Creation)

/-- What an operation does to the creations of its collection. -/
def Operation.onCreations : Operation → List Creation → List Creation
  | .register _, creations | .findOne _ _, creations | .findMany _ _, creations => creations
  | .create _ document fresh, creations =>
    creations ++ [{ created := Object.setDefault document "_id" (.str fresh) }]
  | .updateOne _ filter patch, creations => Creation.changeFirst filter (.patch patch) creations
  | .updateMany _ filter patch, creations => Creation.changeAll filter (.patch patch) creations
  | .deleteOne _ filter, creations => Creation.changeFirst filter .delete creations
  | .deleteMany _ filter, creations => Creation.changeAll filter .delete creations

/-- What becomes of the list of a collection, if it is registered: registering it makes sure that it
is. -/
def Operation.lift {α : Type} (change : List α → List α) (list : Option (List α)) :
    Operation → Option (List α)
  | .register _ => some (list.getD [])
  | _ => list.map change

/-- The journal after an operation. -/
def Journal.act (journal : Journal) (operation : Operation) : Journal := fun wanted =>
  if wanted = operation.collection then
    operation.lift operation.onCreations (journal wanted)
  else journal wanted

/-- The journal after operations. -/
def Journal.actAll (journal : Journal) (operations : List Operation) : Journal :=
  operations.foldl Journal.act journal

/-- The store after operations. -/
def actAll (store : Store) (operations : List Operation) : Store :=
  operations.foldl Operation.act store

/-! ## What operations do to documents -/

/-- What an operation does to the documents of its collection. -/
def Operation.onDocuments : Operation → List Document → List Document
  | .register _, documents | .findOne _ _, documents | .findMany _ _, documents => documents
  | .create _ document fresh, documents =>
    documents ++ [Object.setDefault document "_id" (.str fresh)]
  | .updateOne _ filter patch, documents => (patchFirst filter.toObject (.obj patch) documents).2
  | .updateMany _ filter patch, documents => (patchAll filter.toObject (.obj patch) documents).2
  | .deleteOne _ filter, documents => (removeFirst filter.toObject documents).2
  | .deleteMany _ filter, documents => documents.filter (!selects filter.toObject ·)

variable {store : Store} {collection : String} {documents : List Document} {filter : Filter}

/-- A filter of texts can be read whatever the documents are. -/
theorem readFilter_toObject (filter : Filter) (documents : List Document) :
    readFilter (.obj filter.toObject) documents = .ok filter.toObject := by
  have paths : filter.toObject.dropWhile (isPath ·.1) = [] := by
    unfold Filter.toObject
    induction filter with
    | nil => rfl
    | cons wanted rest ih => exact ih
  unfold readFilter
  split
  · rename_i empty
    cases filter with
    | nil => rfl
    | cons field rest => cases empty
  · simp only [readFields, paths]

/-- A change of a registered collection that cannot fail replaces its documents. -/
theorem change_of_present {α : Type} (present : store.documents? collection = some documents)
    (filter : Filter) (act : Object → List Document → Except Fault α × List Document) :
    store.change collection (.obj filter.toObject) act =
      ((act filter.toObject documents).1.mapError .fault,
        store.replace collection (act filter.toObject documents).2) := by
  simp only [change, documents_eq_ok_iff.2 present, readFilter_toObject]

theorem change_of_absent {α : Type} (absent : store.documents? collection = none)
    (filter : Value) (act : Object → List Document → Except Fault α × List Document) :
    store.change collection filter act =
      (.error (StepError.modelNotFound (.str collection) collection store.names : StepError),
        store) := by
  simp only [change, Store.documents, absent]

/-- An operation on a collection that is not registered changes nothing, unless it registers it. -/
theorem act_of_absent {operation : Operation}
    (absent : store.documents? operation.collection = none)
    (other : operation ≠ .register operation.collection) : operation.act store = store := by
  cases operation with
  | register collection => exact absurd rfl other
  | findOne collection filter => rfl
  | findMany collection filter => rfl
  | create collection document fresh =>
      have absent : store.documents? collection = none := absent
      simp only [Operation.act, create, Store.documents, absent]
      rfl
  | updateOne collection filter patch => exact congrArg Prod.snd (change_of_absent absent _ _)
  | updateMany collection filter patch => exact congrArg Prod.snd (change_of_absent absent _ _)
  | deleteOne collection filter => exact congrArg Prod.snd (change_of_absent absent _ _)
  | deleteMany collection filter => exact congrArg Prod.snd (change_of_absent absent _ _)

theorem documents?_register (store : Store) (collection wanted : String) :
    (store.register collection).documents? wanted =
      if wanted = collection then some ((store.documents? wanted).getD [])
      else store.documents? wanted := by
  unfold register
  split
  · rename_i known
    by_cases same : wanted = collection
    · subst same
      obtain ⟨documents, present⟩ := Option.isSome_iff_exists.1 known
      rw [if_pos rfl, present]
      rfl
    · rw [if_neg same]
  · rename_i unknown
    have absent : store.documents? collection = none := by
      simpa [has] using unknown
    by_cases same : wanted = collection
    · subst same
      rw [if_pos rfl, absent]
      simp only [documents?, List.find?_append, Option.map_or]
      unfold documents? at absent
      rw [absent]
      simp
    · rw [if_neg same]
      simp [documents?, List.find?_append, Ne.symm same]

/-- Replacing the documents of a registered collection changes only that collection. -/
theorem documents?_replace_of_present (present : store.documents? collection = some documents)
    (others : List Document) (wanted : String) :
    (store.replace collection others).documents? wanted =
      if wanted = collection then some others else store.documents? wanted := by
  rw [documents?_replace]
  by_cases same : wanted = collection
  · rw [if_pos same.symm, if_pos same, same, present]
    rfl
  · rw [if_neg (Ne.symm same), if_neg same]

theorem documents?_change {α : Type} (present : store.documents? collection = some documents)
    (filter : Filter) (act : Object → List Document → Except Fault α × List Document)
    (wanted : String) :
    (store.change collection (.obj filter.toObject) act).2.documents? wanted =
      if wanted = collection then some (act filter.toObject documents).2
      else store.documents? wanted := by
  rw [change_of_present present, documents?_replace_of_present present]

/-- An operation on a registered collection replaces its documents. -/
theorem act_of_present {operation : Operation}
    (present : store.documents? operation.collection = some documents) (wanted : String) :
    (operation.act store).documents? wanted =
      if wanted = operation.collection then some (operation.onDocuments documents)
      else store.documents? wanted := by
  have kept : store.documents? wanted =
      if wanted = operation.collection then some documents else store.documents? wanted := by
    by_cases same : wanted = operation.collection
    · rw [if_pos same, same, present]
    · rw [if_neg same]
  cases operation with
  | register collection =>
      have known : store.has collection = true := Option.isSome_iff_exists.2 ⟨documents, present⟩
      rw [Operation.act, register, if_pos known]
      exact kept
  | findOne collection filter => exact kept
  | findMany collection filter => exact kept
  | create collection document fresh =>
      have found : store.documents collection = .ok documents := documents_eq_ok_iff.2 present
      have created : (Operation.create collection document fresh).act store =
          store.replace collection (documents ++ [Object.setDefault document "_id" (.str fresh)]) := by
        simp only [Operation.act, create, found]
        rfl
      rw [created]
      exact documents?_replace_of_present present _ wanted
  | updateOne collection filter patch => exact documents?_change present filter _ wanted
  | updateMany collection filter patch => exact documents?_change present filter _ wanted
  | deleteOne collection filter => exact documents?_change present filter _ wanted
  | deleteMany collection filter => exact documents?_change present filter _ wanted

/-- An operation changes the documents of its collection, and no others. -/
theorem documents?_act (store : Store) (operation : Operation) (wanted : String) :
    (operation.act store).documents? wanted =
      if wanted = operation.collection then
        operation.lift operation.onDocuments (store.documents? wanted)
      else store.documents? wanted := by
  cases present : store.documents? operation.collection with
  | some documents =>
      rw [act_of_present present]
      by_cases same : wanted = operation.collection
      · rw [if_pos same, if_pos same, same, present]
        cases operation <;> rfl
      · rw [if_neg same, if_neg same]
  | none =>
      by_cases registers : operation = .register operation.collection
      · rw [registers]
        exact documents?_register store operation.collection wanted
      · rw [act_of_absent present registers]
        by_cases same : wanted = operation.collection
        · rw [if_pos same, same, present]
          cases operation with
          | register collection => exact absurd rfl registers
          | _ => rfl
        · rw [if_neg same]

/-! ## What operations do to creations -/

namespace Creation

theorem current_patch (creation : Creation) (patch : Object) :
    (creation.patch patch).current = Object.merge creation.current patch := by
  simp only [current, Creation.patch, List.foldl_append, List.foldl_cons, List.foldl_nil]

theorem living_cons (creation : Creation) (rest : List Creation) :
    living (creation :: rest) =
      if creation.deleted then living rest else creation.current :: living rest := by
  cases deleted : creation.deleted <;> simp [living, deleted]

theorem isSelected_of_deleted {creation : Creation} (deleted : creation.deleted = true) :
    creation.isSelected filter = false := by
  simp [isSelected, deleted]

theorem isSelected_of_alive {creation : Creation} (alive : creation.deleted = false) :
    creation.isSelected filter = selects filter.toObject creation.current := by
  simp [isSelected, alive]

theorem living_append (first second : List Creation) :
    living (first ++ second) = living first ++ living second := by
  simp only [living, List.filter_append, List.map_append]

end Creation

/-- Put other documents in the place of the first one that is selected. -/
def replaceFirst (selected : Document → Bool) (instead : Document → List Document) :
    List Document → List Document
  | [] => []
  | document :: rest =>
    if selected document then instead document ++ rest
    else document :: replaceFirst selected instead rest

theorem patchFirst_eq_replaceFirst (wanted patch : Object) (documents : List Document) :
    (patchFirst wanted (.obj patch) documents).2 =
      replaceFirst (selects wanted) (fun document => [Object.merge document patch]) documents := by
  induction documents with
  | nil => rfl
  | cons document rest ih =>
      rw [patchFirst, replaceFirst, ← ih]
      cases selects wanted document <;> rfl

theorem removeFirst_eq_replaceFirst (wanted : Object) (documents : List Document) :
    (removeFirst wanted documents).2 = replaceFirst (selects wanted) (fun _ => []) documents := by
  induction documents with
  | nil => rfl
  | cons document rest ih =>
      rw [removeFirst, replaceFirst, ← ih]
      cases selects wanted document <;> rfl

namespace Creation

variable {change : Creation → Creation}

/-- A change of the first selected creation puts in the place of its document what it makes of it. -/
theorem living_changeFirst (instead : Document → List Document)
    (changed : ∀ creation, creation.deleted = false →
      living [change creation] = instead creation.current)
    (creations : List Creation) :
    living (changeFirst filter change creations) =
      replaceFirst (selects filter.toObject) instead (living creations) := by
  induction creations with
  | nil => rfl
  | cons creation rest ih =>
      rw [changeFirst, living_cons creation rest]
      -- A dead creation is passed over on both sides; of a living one the document decides.
      cases fate : creation.deleted with
      | true =>
          rw [isSelected_of_deleted fate, if_neg Bool.false_ne_true, if_pos rfl, living_cons,
            if_pos fate, ih]
      | false =>
          rw [isSelected_of_alive fate, if_neg Bool.false_ne_true, replaceFirst]
          split
          · rw [← changed creation fate, ← living_append]
            rfl
          · rw [living_cons, fate, if_neg Bool.false_ne_true, ih]

/-- A change of all selected creations puts in the place of each of their documents what it makes of
it. -/
theorem living_changeAll (instead : Document → List Document)
    (changed : ∀ creation, creation.deleted = false →
      living [change creation] = instead creation.current)
    (creations : List Creation) :
    living (changeAll filter change creations) =
      (living creations).flatMap fun document =>
        if selects filter.toObject document then instead document else [document] := by
  induction creations with
  | nil => rfl
  | cons creation rest ih =>
      have later : living (rest.map fun creation =>
          if creation.isSelected filter then change creation else creation) = _ := ih
      rw [changeAll, List.map_cons, living_cons creation rest]
      cases fate : creation.deleted with
      | true =>
          rw [isSelected_of_deleted fate, if_neg Bool.false_ne_true, if_pos rfl, living_cons,
            if_pos fate, later]
      | false =>
          rw [isSelected_of_alive fate, if_neg Bool.false_ne_true, List.flatMap_cons, ← later]
          split
          · rw [← changed creation fate, ← living_append]
            rfl
          · rw [living_cons, fate, if_neg Bool.false_ne_true]
            rfl

theorem living_patch (patch : Object) (creation : Creation) (alive : creation.deleted = false) :
    living [creation.patch patch] = [Object.merge creation.current patch] := by
  have alive : (creation.patch patch).deleted = false := alive
  rw [living_cons, alive, current_patch]
  rfl

theorem living_delete (creation : Creation) : living [creation.delete] = [] :=
  rfl

end Creation

/-- An operation does the same to the living documents of a journal as to those of a store. -/
theorem living_onCreations (operation : Operation) (creations : List Creation) :
    Creation.living (operation.onCreations creations) =
      operation.onDocuments (Creation.living creations) := by
  cases operation with
  | register collection => rfl
  | findOne collection filter => rfl
  | findMany collection filter => rfl
  | create collection document fresh =>
      rw [Operation.onCreations, Creation.living_append]
      rfl
  | updateOne collection filter patch =>
      rw [Operation.onDocuments, patchFirst_eq_replaceFirst]
      exact Creation.living_changeFirst _ (Creation.living_patch patch) creations
  | updateMany collection filter patch =>
      rw [Operation.onDocuments, patchAll_of_whole rfl]
      refine (Creation.living_changeAll (fun document => [Object.merge document patch])
        (Creation.living_patch patch) creations).trans ?_
      rw [List.map_eq_flatMap]
      congr 1
      funext document
      split <;> rfl
  | deleteOne collection filter =>
      rw [Operation.onDocuments, removeFirst_eq_replaceFirst]
      exact Creation.living_changeFirst _ (fun creation _ => Creation.living_delete creation)
        creations
  | deleteMany collection filter =>
      refine (Creation.living_changeAll (fun _ => [])
        (fun creation _ => Creation.living_delete creation) creations).trans ?_
      rw [Operation.onDocuments]
      induction Creation.living creations with
      | nil => rfl
      | cons document rest ih =>
          rw [List.flatMap_cons, List.filter_cons, ih]
          cases selects filter.toObject document <;> rfl

/-- A store holds the living documents of a journal. -/
def Follows (store : Store) (journal : Journal) : Prop :=
  ∀ collection, store.documents? collection = (journal collection).map Creation.living

theorem Follows.act {journal : Journal} (follows : store.Follows journal) (operation : Operation) :
    (operation.act store).Follows (journal.act operation) := by
  intro wanted
  rw [documents?_act, follows wanted, Journal.act]
  split
  · cases journal wanted with
    | none => cases operation <;> rfl
    | some creations =>
        have living := congrArg some (living_onCreations operation creations)
        cases operation with
        | register collection => rfl
        | _ => exact living.symm
  · rfl

/-! ## Growth -/

namespace Creation

variable {change : Creation → Creation}

theorem created_patch (patch : Object) (creation : Creation) :
    (creation.patch patch).created = creation.created :=
  rfl

theorem created_delete (creation : Creation) : creation.delete.created = creation.created :=
  rfl

theorem created_changeFirst (keeps : ∀ creation, (change creation).created = creation.created)
    (creations : List Creation) :
    (changeFirst filter change creations).map (·.created) = creations.map (·.created) := by
  induction creations with
  | nil => rfl
  | cons creation rest ih =>
      rw [changeFirst]
      split
      · simp only [List.map_cons, keeps]
      · simp only [List.map_cons, ih]

theorem created_changeAll (keeps : ∀ creation, (change creation).created = creation.created)
    (creations : List Creation) :
    (changeAll filter change creations).map (·.created) = creations.map (·.created) := by
  rw [changeAll, List.map_map]
  apply List.map_congr_left
  intro creation _
  simp only [Function.comp_apply]
  split
  · exact keeps creation
  · rfl

end Creation

/-- The creations of a collection grow only at their end, and keep the form in which they were
created. -/
theorem created_onCreations (operation : Operation) (creations : List Creation) :
    creations.map (·.created) <+: (operation.onCreations creations).map (·.created) := by
  cases operation with
  | register collection => exact List.prefix_rfl
  | findOne collection filter => exact List.prefix_rfl
  | findMany collection filter => exact List.prefix_rfl
  | create collection document fresh =>
      rw [Operation.onCreations, List.map_append]
      exact List.prefix_append _ _
  | updateOne collection filter patch =>
      simp only [Operation.onCreations, Creation.created_changeFirst (Creation.created_patch patch),
        List.prefix_rfl]
  | updateMany collection filter patch =>
      simp only [Operation.onCreations, Creation.created_changeAll (Creation.created_patch patch),
        List.prefix_rfl]
  | deleteOne collection filter =>
      simp only [Operation.onCreations, Creation.created_changeFirst Creation.created_delete,
        List.prefix_rfl]
  | deleteMany collection filter =>
      simp only [Operation.onCreations, Creation.created_changeAll Creation.created_delete,
        List.prefix_rfl]

/-! ## Counting documents -/

/-- The deletions in a collection that operations report. -/
def deletions (collection : String) : Store → List Operation → Nat
  | _, [] => 0
  | store, operation :: rest =>
    (if operation.collection = collection then operation.deletedCount store else 0) +
      deletions collection (operation.act store) rest

/-- The documents that operations create in a collection. -/
def creations (collection : String) : Store → List Operation → Nat
  | _, [] => 0
  | store, operation :: rest =>
    (if operation.collection = collection then operation.createdCount store else 0) +
      creations collection (operation.act store) rest

/-- The number of documents in a collection. -/
def size (store : Store) (collection : String) : Nat :=
  ((store.documents? collection).getD []).length

theorem length_patchFirst (wanted : Object) (patch : Value) (documents : List Document) :
    (patchFirst wanted patch documents).2.length = documents.length := by
  induction documents with
  | nil => rfl
  | cons document rest ih =>
      rw [patchFirst]
      split
      · split <;> rfl
      · simp only [List.length_cons, ih]

theorem length_removeFirst (wanted : Object) (documents : List Document) :
    (removeFirst wanted documents).2.length + (removeFirst wanted documents).1 =
      documents.length := by
  induction documents with
  | nil => rfl
  | cons document rest ih =>
      rw [removeFirst]
      split
      · rfl
      · simp only [List.length_cons]
        omega

theorem counts_of_absent {operation : Operation}
    (absent : store.documents? operation.collection = none) :
    operation.deletedCount store = 0 ∧ operation.createdCount store = 0 := by
  cases operation with
  | create collection document fresh =>
      have absent : store.documents? collection = none := absent
      exact ⟨rfl, by simp [Operation.createdCount, has, absent]⟩
  | deleteOne collection filter =>
      have absent : store.documents? collection = none := absent
      exact ⟨by simp only [Operation.deletedCount, deleteOne, change_of_absent absent]; rfl, rfl⟩
  | deleteMany collection filter =>
      have absent : store.documents? collection = none := absent
      exact ⟨by simp only [Operation.deletedCount, deleteMany, change_of_absent absent]; rfl, rfl⟩
  | _ => exact ⟨rfl, rfl⟩

theorem counts_of_present {operation : Operation}
    (present : store.documents? operation.collection = some documents) :
    (operation.onDocuments documents).length + operation.deletedCount store =
      documents.length + operation.createdCount store := by
  cases operation with
  | register collection => rfl
  | findOne collection filter => rfl
  | findMany collection filter => rfl
  | create collection document fresh =>
      have present : store.documents? collection = some documents := present
      simp [Operation.onDocuments, Operation.deletedCount, Operation.createdCount, has, present]
  | updateOne collection filter patch =>
      rw [Operation.onDocuments, length_patchFirst]
      rfl
  | updateMany collection filter patch =>
      rw [Operation.onDocuments, patchAll_of_whole rfl, List.length_map]
      rfl
  | deleteOne collection filter =>
      have present : store.documents? collection = some documents := present
      simp only [Operation.deletedCount, deleteOne, change_of_present present]
      exact length_removeFirst filter.toObject documents
  | deleteMany collection filter =>
      have present : store.documents? collection = some documents := present
      have fewer := List.length_filter_le (!selects filter.toObject ·) documents
      simp only [Operation.deletedCount, deleteMany, change_of_present present]
      exact Nat.add_sub_cancel' fewer

/-- An operation adds to its collection what it creates and takes from it what it reports as
deleted. -/
theorem size_act (store : Store) (operation : Operation) :
    (operation.act store).size operation.collection + operation.deletedCount store =
      store.size operation.collection + operation.createdCount store := by
  rw [size, size, documents?_act, if_pos rfl]
  cases present : store.documents? operation.collection with
  | none =>
      obtain ⟨none_deleted, none_created⟩ := counts_of_absent present
      rw [none_deleted, none_created]
      cases operation <;> rfl
  | some documents =>
      have counted := counts_of_present present
      cases operation <;> exact counted

theorem size_act_of_ne {operation : Operation} (other : operation.collection ≠ collection) :
    (operation.act store).size collection = store.size collection := by
  rw [size, size, documents?_act, if_neg (Ne.symm other)]

/-- The size of a collection is what was created in it less what was reported as deleted. -/
theorem size_actAll (store : Store) (operations : List Operation) (collection : String) :
    (store.actAll operations).size collection + deletions collection store operations =
      store.size collection + creations collection store operations := by
  induction operations generalizing store with
  | nil => rfl
  | cons operation rest ih =>
      have next := ih (operation.act store)
      rw [deletions, creations, actAll, List.foldl_cons]
      unfold actAll at next
      by_cases here : operation.collection = collection
      · have counted := size_act store operation
        rw [here] at counted
        rw [if_pos here, if_pos here]
        omega
      · rw [size_act_of_ne here] at next
        rw [if_neg here, if_neg here]
        omega

/-! ## Ids -/

/-- Every document has an id. -/
def Identified (store : Store) : Prop :=
  ∀ collection documents, store.documents? collection = some documents →
    ∀ document ∈ documents, Object.contains document "_id" = true

theorem contains_merge {document : Document} {name : Name}
    (present : Object.contains document name = true) (patch : Object) :
    Object.contains (Object.merge document patch) name = true := by
  unfold Object.contains at *
  rw [Object.get?_merge]
  cases Object.get? (Object.ofFields patch) name with
  | some value => rfl
  | none => simpa using present

theorem contains_setDefault (document : Document) (name : Name) (value : Value) :
    Object.contains (Object.setDefault document name value) name = true := by
  rw [Object.contains, Object.get?_setDefault, if_pos rfl]
  rfl

/-- An operation leaves every document of its collection with an id. -/
theorem contains_id_onDocuments (operation : Operation)
    (identified : ∀ document ∈ documents, Object.contains document "_id" = true) :
    ∀ document ∈ operation.onDocuments documents, Object.contains document "_id" = true := by
  intro document member
  cases operation with
  | register collection => exact identified document member
  | findOne collection filter => exact identified document member
  | findMany collection filter => exact identified document member
  | create collection given fresh =>
      rcases List.mem_append.1 member with known | new
      · exact identified document known
      · obtain rfl := List.mem_singleton.1 new
        exact contains_setDefault given "_id" _
  | updateOne collection filter patch =>
      rcases mem_patchFirst member with known | ⟨old, known, rfl⟩
      · exact identified document known
      · exact contains_merge (identified old known) _
  | updateMany collection filter patch =>
      rcases mem_patchAll member with known | ⟨old, known, rfl⟩
      · exact identified document known
      · exact contains_merge (identified old known) _
  | deleteOne collection filter =>
      have member : document ∈ (removeFirst filter.toObject documents).2 := member
      rw [removeFirst_eq_eraseP] at member
      exact identified document (List.mem_of_mem_eraseP member)
  | deleteMany collection filter => exact identified document (List.mem_filter.1 member).1

theorem Identified.act (identified : store.Identified) (operation : Operation) :
    (operation.act store).Identified := by
  intro wanted found present
  rw [documents?_act] at present
  split at present
  · cases known : store.documents? wanted with
    | none =>
        rw [known] at present
        cases operation with
        | register collection =>
            obtain rfl := Option.some.inj present
            simp
        | _ => cases present
    | some documents =>
        rw [known] at present
        have identified := contains_id_onDocuments operation (identified wanted documents known)
        cases operation <;> exact Option.some.inj present ▸ identified
  · exact identified wanted found present

/-! ## Refusals -/

/-- A change that cannot break off is not refused by a registered collection. -/
theorem failure?_change {α : Type} (present : store.documents? collection = some documents)
    (filter : Filter) {act : Object → List Document → Except Fault α × List Document}
    (whole : ∀ fault, (act filter.toObject documents).1 ≠ .error fault) :
    failure? (store.change collection (.obj filter.toObject) act).1 = none := by
  rw [change_of_present present]
  cases outcome : (act filter.toObject documents).1 with
  | ok value => rfl
  | error fault => exact absurd outcome (whole fault)

/-- An operation on a registered collection is not refused. -/
theorem refusal?_of_present {operation : Operation}
    (present : store.documents? operation.collection = some documents) :
    operation.refusal? store = none := by
  have found : store.documents operation.collection = .ok documents := documents_eq_ok_iff.2 present
  cases operation with
  | register collection => rfl
  | findOne collection filter =>
      have found : store.documents collection = .ok documents := found
      simp only [Operation.refusal?, findOne, found, Outcome.ok_bind, readFilter_toObject]
      rfl
  | findMany collection filter =>
      have found : store.documents collection = .ok documents := found
      simp only [Operation.refusal?, findMany, found, Outcome.ok_bind, readFilter_toObject]
      rfl
  | create collection document fresh =>
      have found : store.documents collection = .ok documents := found
      simp only [Operation.refusal?, create, found, Outcome.ok_bind]
      rfl
  | updateOne collection filter patch =>
      refine failure?_change present filter fun fault broken => ?_
      cases (patchFirst_error broken).1
  | updateMany collection filter patch =>
      refine failure?_change present filter fun fault broken => ?_
      cases (patchAll_error broken).1
  | deleteOne collection filter =>
      refine failure?_change present filter fun fault broken => ?_
      cases broken
  | deleteMany collection filter =>
      refine failure?_change present filter fun fault broken => ?_
      cases broken

/-- An operation that is refused changes nothing. -/
theorem act_of_refused {operation : Operation} {failure : Failure}
    (refused : operation.refusal? store = some failure) : operation.act store = store := by
  cases present : store.documents? operation.collection with
  | some documents =>
      rw [refusal?_of_present present] at refused
      cases refused
  | none =>
      apply act_of_absent present
      intro registers
      rw [registers] at refused
      cases refused

/-- Creating a document is the operation with the next identifier, also when the id of the document
cannot be announced. -/
theorem store_create (collection : String) (document : Object) (world : World) :
    ((Action.create collection (.obj document)).run.run world).2.store =
      (Operation.create collection document (Identifier.plain (world.issued + 1))).act
        world.store := by
  cases found : world.store.documents collection with
  | error failure =>
      change (Action.create collection (.obj document) world).2.store = _
      simp only [Action.create, Operation.act, create, found]
      rfl
  | ok documents =>
      rw [Action.run_create (documents_eq_ok_iff.1 found)]
      simp only [Operation.act, create, found]
      rfl

/-! ## Histories -/

/-- After any operations on a new store with filters of texts, and objects for documents and patches,
the store holds the living documents of the journal: those that were created in a collection and are
not deleted, in the order of their creation, each with the patches of exactly the updates that
selected it.  A patch sets its own fields, and those that a document has keep their places.  The
journal only grows; the size of a collection is the number of creations less the deletions that were
reported, and every document has an id.  A further operation changes no collection but its own, and
none at all when it is refused. -/
theorem follows_journal (operations : List Operation) :
    let store := actAll {} operations
    let journal := Journal.actAll (fun _ => none) operations
    store.Follows journal ∧
    (∀ document patch : Object,
      document.names <+: (Object.merge document patch).names ∧
        ∀ name, Object.get? (Object.merge document patch) name =
          (Object.get? (Object.ofFields patch) name).or (Object.get? document name)) ∧
    (∀ (operation : Operation) collection creations, journal collection = some creations →
      ∃ later, journal.act operation collection = some later ∧
        creations.map (·.created) <+: later.map (·.created)) ∧
    (∀ collection, store.size collection + deletions collection {} operations =
      creations collection {} operations) ∧
    store.Identified ∧
    (∀ (operation : Operation) collection, collection ≠ operation.collection →
      (operation.act store).documents? collection = store.documents? collection) ∧
    ∀ (operation : Operation) failure, operation.refusal? store = some failure →
      operation.act store = store := by
  intro store journal
  have history (operations : List Operation) (store : Store) (journal : Journal)
      (follows : store.Follows journal) (identified : store.Identified) :
      (store.actAll operations).Follows (journal.actAll operations) ∧
        (store.actAll operations).Identified := by
    induction operations generalizing store journal with
    | nil => exact ⟨follows, identified⟩
    | cons operation rest ih =>
        exact ih (operation.act store) (journal.act operation) (follows.act operation)
          (identified.act operation)
  obtain ⟨follows, identified⟩ := history operations {} (fun _ => none) (fun _ => rfl)
    (fun _ _ present => by cases present)
  refine ⟨follows, ?_, ?_, ?_, identified, ?_, fun operation failure => act_of_refused⟩
  · intro document patch
    exact ⟨Object.names_merge document patch, Object.get?_merge document patch⟩
  · intro operation collection creations known
    rw [Journal.act, known]
    split
    · refine ⟨operation.onCreations creations, ?_, created_onCreations operation creations⟩
      cases operation <;> rfl
    · exact ⟨creations, rfl, List.prefix_rfl⟩
  · intro collection
    exact (size_actAll {} operations collection).trans (Nat.zero_add _)
  · intro operation collection other
    rw [documents?_act, if_neg other]

end Workflow.Store
