import Workflow.Proofs.Handler.Effect

/-!
# What a failure leaves behind

A handler that fails leaves all documents as they were, with two exceptions.  An update whose patch
breaks off has already given its first fields to the first selected document, and an insertion whose
id cannot be announced has already stored the document.
-/

namespace Workflow.Handler

/-- A failure comes after a part of what was to be done to the store. -/
inductive Torn (kind : Kind) (fields environment : Object) (request : Request) (world : World) :
    Failure → Store → Prop where
  | patched {collection : String} {documents earlier later : List Document} {filter : Object}
      {patch : Value} {document : Document} {fault : Fault}
      (kind_eq : kind = .update)
      (targets : Targets fields world.store collection documents)
      (patches : Patches fields environment documents filter patch)
      (broken : (Pairs.given patch).2 = some fault)
      (first : Store.IsFirst filter documents earlier document later)
      (changed : Object.merge document (Pairs.given patch).1 ≠ document) :
      Torn kind fields environment request world (.fault fault)
        (world.store.replace collection
          (earlier ++ Object.merge document (Pairs.given patch).1 :: later))
  | inserted {collection : String} {documents : List Document} {data document stored : Object}
      {cause : Fault}
      (kind_eq : kind = .insert)
      (targets : Targets fields world.store collection documents)
      (resolved : Template.resolveMapping environment (Value.field fields "data") = .ok (.obj data))
      (hashes : Hashes request.collaborators world.calls data document)
      (stored_eq : stored =
        Object.setDefault document "_id" (.str (Identifier.plain (world.issued + 1))))
      (unannounced : (Value.field stored "_id").text = .error cause) :
      Torn kind fields environment request world (.fault cause)
        (world.store.replace collection (documents ++ [stored]))

variable {kind : Kind} {fields environment : Object} {request : Request} {world : World}
  {failure : Failure} {store : Store}

/-- A store that is torn is not the one from before. -/
theorem Torn.not_same (torn : Torn kind fields environment request world failure store) :
    ¬ store.Same world.store := by
  cases torn with
  | patched kind_eq targets patches broken first changed =>
      rw [Store.replace_same_iff targets.present, first.eq]
      simpa using changed
  | inserted kind_eq targets resolved hashes stored_eq unannounced =>
      rw [Store.replace_same_iff targets.present]
      simp

/-- A patch that breaks off at the first selected document leaves it as it was, or torn. -/
theorem same_or_torn_of_broken {collection : String}
    {documents earlier later : List Document} {filter : Object} {patch : Value}
    {document : Document} {fault : Fault}
    (targets : Targets fields world.store collection documents)
    (patches : Patches fields environment documents filter patch)
    (broken : (Pairs.given patch).2 = some fault)
    (first : Store.IsFirst filter documents earlier document later) :
    (world.store.replace collection
        (earlier ++ Object.merge document (Pairs.given patch).1 :: later)).Same world.store ∨
      Torn .update fields environment request world (.fault fault)
        (world.store.replace collection
          (earlier ++ Object.merge document (Pairs.given patch).1 :: later)) := by
  by_cases same : Object.merge document (Pairs.given patch).1 = document
  · left
    rw [Store.replace_same_iff targets.present, first.eq, same]
  · right
    exact .patched rfl targets patches broken first same

theorem announce_error {stored : Document}
    (failed : (Action.announce stored).map Value.obj = .error failure) :
    ∃ cause, (Value.field stored "_id").text = .error cause ∧ failure = .fault cause := by
  unfold Action.announce at failed
  split at failed
  · cases failed
  · rename_i cause unannounced
    exact ⟨cause, unannounced, (Except.error.inj failed).symm⟩

/-- What fails with the failure of an outcome is that outcome, with a fault. -/
theorem report_error {α : Type} {outcome : Except Fault α} {report : α → Value}
    (failed : (outcome.mapError Failure.fault).map report = .error failure) :
    ∃ fault, outcome = .error fault ∧ failure = .fault fault := by
  cases outcome with
  | ok value => cases failed
  | error fault => exact ⟨fault, rfl, (Except.error.inj failed).symm⟩

/-- An effect that goes with a failure leaves the documents as they were, or torn. -/
theorem Effect.same_or_torn {outcome : Except Failure Value}
    (effect : Effect kind fields environment request world outcome store)
    (failed : outcome = .error failure) :
    store.Same world.store ∨ Torn kind fields environment request world failure store := by
  cases effect with
  | read reads outcome =>
      left
      exact .refl _
  | stopped failure =>
      left
      exact .refl _
  | inserted kind_eq targets resolved hashes stored_eq =>
      right
      rcases announce_error failed with ⟨cause, unannounced, rfl⟩
      exact .inserted kind_eq targets resolved hashes stored_eq unannounced
  | @patchedFirst collection documents filter patch kind_eq targets patches =>
      rcases report_error failed with ⟨fault, stopped, rfl⟩
      rcases Store.patchFirst_error stopped with ⟨broken, earlier, document, later, first, after_eq⟩
      rw [kind_eq, after_eq]
      exact same_or_torn_of_broken targets patches broken first
  | @patchedAll collection documents filter patch kind_eq targets patches =>
      rcases report_error failed with ⟨fault, stopped, rfl⟩
      rcases Store.patchAll_error stopped with ⟨broken, earlier, document, later, first, after_eq⟩
      rw [kind_eq, after_eq]
      exact same_or_torn_of_broken targets patches broken first
  | deleted kind_eq targets fewer => cases failed

/-- A handler that fails changes the documents exactly when it leaves the store torn: every other
failure leaves every collection with the documents that it had. -/
theorem changed_iff_torn (kind : Kind) (fields environment : Object) (request : Request)
    (world : World) (failure : Failure)
    (failed : (kind.handler fields environment request world).result = .error failure) :
    ¬ (kind.handler fields environment request world).world.store.Same world.store ↔
      Torn kind fields environment request world failure
        (kind.handler fields environment request world).world.store := by
  constructor
  · intro changed
    have ended := effect_of_kind fields environment request world kind
    exact (ended.same_or_torn failed).resolve_left changed
  · exact Torn.not_same

/-- Renaming a user by pairs of which the second is malformed fails and leaves the store torn. -/
theorem changed_iff_torn_malformedPair :
    let patch : Value := .arr [.arr [.str "name", .str "Eve"], .arr [.str "role"]]
    let fields : Object :=
      [("collection", .str "users"), ("filters", .obj []), ("update", patch)]
    let user (name : String) : Document := [("_id", .str "u1"), ("name", .str name)]
    let world : World := { store := ⟨[("users", [user "Ada"])]⟩ }
    let request : Request := { executionId := "first" }
    let reply := Kind.update.handler fields [("input", .obj [])] request world
    reply.result = .error (.fault (.pairLength 1 1)) ∧
      reply.world.store.documents? "users" = some [user "Eve"] ∧
      Torn .update fields [("input", .obj [])] request world (.fault (.pairLength 1 1))
        reply.world.store := by
  intro patch fields user world request reply
  have failed : reply.result = .error (.fault (.pairLength 1 1)) := by with_unfolding_all rfl
  have renamed : reply.world.store.documents? "users" = some [user "Eve"] := by
    with_unfolding_all rfl
  refine ⟨failed, renamed, ?_⟩
  apply (changed_iff_torn .update fields [("input", .obj [])] request world _ failed).1
  intro same
  have kept : reply.world.store.documents? "users" = some [user "Ada"] :=
    same.documents_eq "users"
  simp [renamed, user] at kept

/-- Not every failure leaves the documents as they were. -/
theorem failed_not_always_same :
    ¬ ∀ (kind : Kind) (fields environment : Object) (request : Request) (world : World)
      (failure : Failure),
      (kind.handler fields environment request world).result = .error failure →
        (kind.handler fields environment request world).world.store.Same world.store := by
  intro keeps
  let patch : Value := .arr [.arr [.str "name", .str "Eve"], .arr [.str "role"]]
  let fields : Object := [("collection", .str "users"), ("filters", .obj []), ("update", patch)]
  let user (name : String) : Document := [("_id", .str "u1"), ("name", .str name)]
  let world : World := { store := ⟨[("users", [user "Ada"])]⟩ }
  have same := keeps .update fields [("input", .obj [])] { executionId := "first" } world
    (.fault (.pairLength 1 1)) (by with_unfolding_all rfl)
  have renamed : (Kind.update.handler fields [("input", .obj [])] { executionId := "first" }
      world).world.store.documents? "users" = some [user "Eve"] := by with_unfolding_all rfl
  have kept := renamed.symm.trans (same.documents_eq "users")
  simp [world, user, Store.documents?] at kept

end Workflow.Handler
