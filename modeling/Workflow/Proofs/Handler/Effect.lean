import Workflow.Handler.Registry
import Workflow.Proofs.Handler.Action
import Workflow.Proofs.Store.Changes

/-!
# Effects on the store

What the built-in handlers can do to the store, with the reply that goes with it.  Most of them leave
it as it is; the others replace the documents of the one collection that they name, unless they fail
before they act.
-/

namespace Workflow.Handler

/-! ## Effects -/

theorem requireCollection_eq_ok_iff {fields : Object} {store : Store} {collection : String} :
    requireCollection fields store = .ok collection ↔
      Value.field fields "collection" = .str collection ∧ collection ≠ "" ∧
        ∃ documents, store.documents? collection = some documents := by
  unfold requireCollection
  cases Value.field fields "collection" with
  | str name =>
      constructor
      · intro found
        by_cases empty : name = ""
        · simp [Value.isTruthy, empty] at found
        · cases known : store.documents? name with
          | none => simp [Value.isTruthy, hasCollection, Store.has, empty, known] at found
          | some documents =>
              obtain rfl : name = collection := by
                simpa [Value.isTruthy, hasCollection, Store.has, empty, known] using found
              exact ⟨rfl, empty, documents, known⟩
      · rintro ⟨same, nonempty, documents, known⟩
        cases same
        simp [Value.isTruthy, hasCollection, Store.has, nonempty, known]
  | arr items => simp only [hasCollection]; split <;> simp
  | obj object => simp only [hasCollection]; split <;> simp
  | _ => simp [hasCollection]

/-- A document is given data with the password hashed: one that does not count as given stays, any
other gives way to what the hasher makes of it. -/
inductive Hashes (collaborators : Collaborators) (call : Nat) (data : Object) : Object → Prop where
  | absent (untouched : (Value.field data "password").isTruthy = false) :
      Hashes collaborators call data data
  | hashed {hasher : Hasher} {hash : Value}
      (given : (Value.field data "password").isTruthy = true)
      (present : collaborators.hasher = some hasher)
      (answered : hasher.hash call (Value.field data "password") = .ok hash) :
      Hashes collaborators call data (Object.set data "password" hash)

/-- The fields of a step name a collection with documents. -/
structure Targets (fields : Object) (store : Store) (collection : String)
    (documents : List Document) : Prop where
  named : requireCollection fields store = .ok collection
  present : store.documents? collection = some documents

/-- The fields of an update denote a patch and a filter for documents. -/
structure Patches (fields environment : Object) (documents : List Document) (filter : Object)
    (patch : Value) : Prop where
  resolved : Template.resolveMapping environment (fieldOr fields "update" "data") = .ok patch
  read : ∃ wanted, Template.resolveMapping environment (fieldOr fields "filters" "filter") =
    .ok wanted ∧ Store.readFilter wanted documents = .ok filter

/-- The kinds of steps that change documents. -/
def Writes (kind : Kind) : Prop :=
  kind = .insert ∨ kind = .update ∨ kind = .delete

/-- What a handler of a kind replies together with the store that it leaves. -/
inductive Effect (kind : Kind) (fields environment : Object) (request : Request) (world : World) :
    Except Failure Value → Store → Prop where
  | read (reads : ¬ Writes kind) (outcome : Except Failure Value) :
      Effect kind fields environment request world outcome world.store
  | stopped (failure : Failure) :
      Effect kind fields environment request world (.error failure) world.store
  | inserted {collection : String} {documents : List Document} {data document stored : Object}
      (kind_eq : kind = .insert)
      (targets : Targets fields world.store collection documents)
      (resolved : Template.resolveMapping environment (Value.field fields "data") = .ok (.obj data))
      (hashes : Hashes request.collaborators world.calls data document)
      (stored_eq : stored =
        Object.setDefault document "_id" (.str (Identifier.plain (world.issued + 1)))) :
      Effect kind fields environment request world ((Action.announce stored).map .obj)
        (world.store.replace collection (documents ++ [stored]))
  | patchedFirst {collection : String} {documents : List Document} {filter : Object} {patch : Value}
      (kind_eq : kind = .update)
      (targets : Targets fields world.store collection documents)
      (patches : Patches fields environment documents filter patch) :
      Effect kind fields environment request world
        (((Store.patchFirst filter patch documents).1.mapError .fault).map Store.documentReport)
        (world.store.replace collection (Store.patchFirst filter patch documents).2)
  | patchedAll {collection : String} {documents : List Document} {filter : Object} {patch : Value}
      (kind_eq : kind = .update)
      (targets : Targets fields world.store collection documents)
      (patches : Patches fields environment documents filter patch) :
      Effect kind fields environment request world
        (((Store.patchAll filter patch documents).1.mapError .fault).map Store.updateReport)
        (world.store.replace collection (Store.patchAll filter patch documents).2)
  | deleted {collection : String} {documents kept : List Document} {count : Nat}
      (kind_eq : kind = .delete)
      (targets : Targets fields world.store collection documents)
      (fewer : kept.Sublist documents) :
      Effect kind fields environment request world (.ok (Store.deleteReport count))
        (world.store.replace collection kept)

/-- A document that is announced is the one that was stored. -/
theorem announce_eq_ok {stored announced : Document}
    (ok : (Action.announce stored).map Value.obj = .ok (.obj announced)) : stored = announced := by
  unfold Action.announce at ok
  split at ok
  · exact Value.obj.inj (Except.ok.inj ok)
  · cases ok

/-- A successful insertion appends the document that it replies. -/
theorem Effect.of_inserted {fields environment : Object} {request : Request} {world : World}
    {outcome : Except Failure Value} {store : Store} {stored : Object}
    (effect : Effect .insert fields environment request world outcome store)
    (created : outcome = .ok (.obj stored)) :
    ∃ collection documents data document, Targets fields world.store collection documents ∧
      Template.resolveMapping environment (Value.field fields "data") = .ok (.obj data) ∧
      Hashes request.collaborators world.calls data document ∧
      stored = Object.setDefault document "_id" (.str (Identifier.plain (world.issued + 1))) ∧
      store = world.store.replace collection (documents ++ [stored]) := by
  cases effect with
  | read reads outcome => exact absurd (.inl rfl) reads
  | stopped failure => cases created
  | @inserted collection documents data document kept kind_eq targets resolved hashes stored_eq =>
      obtain rfl := announce_eq_ok created
      exact ⟨collection, documents, data, document, targets, resolved, hashes, stored_eq, rfl⟩
  | patchedFirst kind_eq => cases kind_eq
  | patchedAll kind_eq => cases kind_eq
  | deleted kind_eq => cases kind_eq

/-! ## The handlers -/

variable (fields environment : Object) (request : Request) (world : World)

/-! Steps of the other kinds leave the store as it is, however they end. -/

theorem store_of_ends {act : Object → Object → Request → Action Value} {fields environment : Object}
    {request : Request} {world : World}
    (ends : (act fields environment request).Ends world fun _ after => after.store = world.store) :
    (ofAction act fields environment request world).world.store = world.store :=
  ends

theorem store_collectInput :
    (collectInput fields environment request world).world.store = world.store :=
  store_of_ends (.ofFault_bind (fun _ _ => .pure rfl) fun _ _ => rfl)

theorem store_validateInput :
    (validateInput fields environment request world).world.store = world.store := by
  apply store_of_ends
  apply Action.Ends.ofFault_bind _ fun _ _ => rfl
  intro found _
  split
  · exact .pure rfl
  · exact .fail rfl

theorem store_findDocuments :
    (findDocuments fields environment request world).world.store = world.store := by
  apply store_of_ends
  apply Action.Ends.query_bind _ fun _ _ => rfl
  intro collection _
  apply Action.Ends.ofFault_bind _ fun _ _ => rfl
  intro wanted _
  split
  · exact .query_bind (fun _ _ => .pure rfl) fun _ _ => rfl
  · exact .query_bind (fun _ _ => .pure rfl) fun _ _ => rfl

theorem store_authenticate :
    (authenticate fields environment request world).world.store = world.store := by
  apply store_of_ends
  apply Action.Ends.ofExcept_bind _ fun _ _ => rfl
  intro token _
  split
  · exact .fail rfl
  · exact .ask rfl

theorem store_sendMail :
    (sendMail fields environment request world).world.store = world.store := by
  apply store_of_ends
  apply Action.Ends.ofFault_bind _ fun _ _ => rfl
  intro recipient _
  apply Action.Ends.ofFault_bind _ fun _ _ => rfl
  intro subject _
  apply Action.Ends.ofFault_bind _ fun _ _ => rfl
  intro body _
  split
  · exact .fail rfl
  · split
    · exact .fail rfl
    · apply Action.Ends.ofExcept_bind _ fun _ _ => rfl
      intro mail _
      exact .bind rfl (fun answer _ => .ofExcept rfl) fun _ _ => rfl

theorem store_logIn : (logIn fields environment request world).world.store = world.store := by
  apply store_of_ends
  apply Action.Ends.ofFault_bind _ fun _ _ => rfl
  intro email _
  apply Action.Ends.ofFault_bind _ fun _ _ => rfl
  intro password _
  dsimp only
  split
  · exact .pure rfl
  · apply Action.Ends.query_bind _ fun _ _ => rfl
    intro registered _
    split
    · apply Action.Ends.query_bind _ fun _ _ => rfl
      intro user _
      split
      · exact .pure rfl
      · unfold checkPassword
        split
        · exact .pure rfl
        · exact .ask_bind (fun _ _ => .pure rfl) fun _ _ => rfl
    · exact .ofFault_bind (fun _ _ => .pure rfl) fun _ _ => rfl

/-! Insertions, updates and deletions act on the collection that they name. -/

theorem effect_of_ends {kind : Kind} {act : Object → Object → Request → Action Value}
    {fields environment : Object} {request : Request} {world : World}
    (ends : (act fields environment request).Ends world fun outcome after =>
      Effect kind fields environment request world outcome after.store) :
    Effect kind fields environment request world
      (ofAction act fields environment request world).result
      (ofAction act fields environment request world).world.store :=
  ends

/-- Hashing a password asks the hasher at most, and has a result only as described. -/
theorem hashPassword_ends (data : Object) :
    (hashPassword request data).Ends world fun outcome after =>
      after.store = world.store ∧ after.issued = world.issued ∧
        ∀ document, outcome = .ok document → Hashes request.collaborators world.calls data document := by
  unfold hashPassword
  by_cases given : (Value.field data "password").isTruthy = true
  · simp only [given, if_true]
    split
    · exact .fail ⟨rfl, rfl, nofun⟩
    · rename_i hasher present
      apply Action.Ends.ask_bind
      · intro hash answered
        have hashes : Hashes request.collaborators world.calls data
            (Object.set data "password" hash) := .hashed given present answered
        exact .pure ⟨rfl, rfl, fun document same => Except.ok.inj same ▸ hashes⟩
      · intro failure failed
        exact ⟨rfl, rfl, nofun⟩
  · simp only [given]
    have hashes : Hashes request.collaborators world.calls data data :=
      .absent (by simpa using given)
    exact .pure ⟨rfl, rfl, fun document same => Except.ok.inj same ▸ hashes⟩

theorem insertDocument_effect :
    Effect .insert fields environment request world
      (insertDocument fields environment request world).result
      (insertDocument fields environment request world).world.store := by
  apply effect_of_ends
  apply Action.Ends.query_bind _ fun _ _ => .stopped _
  intro collection named
  apply Action.Ends.ofFault_bind _ fun _ _ => .stopped _
  intro data resolved
  split
  · exact .fail (.stopped _)
  · split
    · rename_i data given
      apply Action.Ends.seq
      apply (hashPassword_ends request world data).weaken
      rintro outcome after ⟨store_eq, issued_eq, hashes⟩
      constructor
      · intro document hashed
        rcases (requireCollection_eq_ok_iff.1 named).2.2 with ⟨documents, present⟩
        apply Action.Ends.report (Action.run_create (store_eq ▸ present) document)
        rw [store_eq, issued_eq]
        exact .inserted rfl ⟨named, present⟩ resolved (hashes document hashed) rfl
      · intro failure failed
        rw [store_eq]
        exact .stopped _
    · exact .stopped _

/-- A reported change of a collection fails before it acts, or acts on its documents. -/
theorem change_ends {α : Type} {collection : String} {wanted : Value}
    {act : Object → List Document → Except Fault α × List Document} {report : α → Value}
    {ending : Except Failure Value → World → Prop}
    (stopped : ∀ failure, ending (.error failure) world)
    (acted : ∀ documents filter, world.store.documents? collection = some documents →
      Store.readFilter wanted documents = .ok filter →
      ending (((act filter documents).1.mapError .fault).map report)
        { world with store := world.store.replace collection (act filter documents).2 }) :
    (Action.change (fun store => store.change collection wanted act) >>=
      fun value => pure (report value)).Ends world ending := by
  rcases Store.change_cases world.store collection wanted act with
    ⟨failure, eq⟩ | ⟨documents, filter, present, read, eq⟩
  · exact .report (Action.run_change eq) (stopped failure)
  · exact .report (Action.run_change eq) (acted documents filter present read)

theorem updateDocuments_effect :
    Effect .update fields environment request world
      (updateDocuments fields environment request world).result
      (updateDocuments fields environment request world).world.store := by
  apply effect_of_ends
  apply Action.Ends.query_bind _ fun _ _ => .stopped _
  intro collection named
  apply Action.Ends.ofFault_bind _ fun _ _ => .stopped _
  intro wanted filtered
  apply Action.Ends.ofFault_bind _ fun _ _ => .stopped _
  intro patch resolved
  split
  · apply change_ends world fun _ => .stopped _
    intro documents filter present read
    exact .patchedAll rfl ⟨named, present⟩ ⟨resolved, wanted, filtered, read⟩
  · apply change_ends world fun _ => .stopped _
    intro documents filter present read
    exact .patchedFirst rfl ⟨named, present⟩ ⟨resolved, wanted, filtered, read⟩

theorem deleteDocuments_effect :
    Effect .delete fields environment request world
      (deleteDocuments fields environment request world).result
      (deleteDocuments fields environment request world).world.store := by
  apply effect_of_ends
  apply Action.Ends.query_bind _ fun _ _ => .stopped _
  intro collection named
  apply Action.Ends.ofFault_bind _ fun _ _ => .stopped _
  intro wanted filtered
  split
  · apply change_ends world fun _ => .stopped _
    intro documents filter present read
    exact .deleted rfl ⟨named, present⟩ List.filter_sublist
  · apply change_ends world fun _ => .stopped _
    intro documents filter present read
    apply Effect.deleted rfl ⟨named, present⟩
    rw [Store.removeFirst_eq_eraseP]
    exact List.eraseP_sublist

/-- An effect may be that nothing happens, if the kind is one that only reads. -/
theorem Effect.of_store_eq {kind : Kind} {outcome : Except Failure Value} {store : Store}
    {fields environment : Object} {request : Request} {world : World} (reads : ¬ Writes kind)
    (kept : store = world.store) : Effect kind fields environment request world outcome store :=
  kept ▸ .read reads outcome

/-- Every built-in handler has one of the effects. -/
theorem effect_of_kind (kind : Kind) :
    Effect kind fields environment request world
      (kind.handler fields environment request world).result
      (kind.handler fields environment request world).world.store := by
  cases kind with
  | input => exact .of_store_eq (by simp [Writes]) (store_collectInput ..)
  | validation => exact .of_store_eq (by simp [Writes]) (store_validateInput ..)
  | find => exact .of_store_eq (by simp [Writes]) (store_findDocuments ..)
  | insert => exact insertDocument_effect fields environment request world
  | update => exact updateDocuments_effect fields environment request world
  | delete => exact deleteDocuments_effect fields environment request world
  | auth => exact .of_store_eq (by simp [Writes]) (store_authenticate ..)
  | email => exact .of_store_eq (by simp [Writes]) (store_sendMail ..)
  | login => exact .of_store_eq (by simp [Writes]) (store_logIn ..)

end Workflow.Handler
