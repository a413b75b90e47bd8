import Workflow.Proofs.Handler.Effect
import Workflow.Proofs.Store.Alike

/-!
# Handlers are local to their collection

A built-in handler other than that for mails reads and changes no collection but the one that its
step names.  In two worlds that are alike within this collection it ends in the same way, whether it
succeeds or fails, and it leaves every other collection as it was.
-/

namespace Workflow

/-- Two worlds show the same time and have stores that are alike within some collections. -/
structure World.Alike (within : Set String) (world other : World) : Prop where
  store_alike : world.store.Alike within other.store
  now_eq : world.now = other.now

namespace World.Alike

variable {within fewer : Set String} {world other third : World}

theorem refl (world : World) : world.Alike within world :=
  ⟨.refl world.store, rfl⟩

theorem symm (alike : world.Alike within other) : other.Alike within world :=
  ⟨alike.store_alike.symm, alike.now_eq.symm⟩

theorem trans (first : world.Alike within other) (second : other.Alike within third) :
    world.Alike within third :=
  ⟨first.store_alike.trans second.store_alike, first.now_eq.trans second.now_eq⟩

theorem mono (alike : world.Alike within other) (subset : fewer ⊆ within) :
    world.Alike fewer other :=
  ⟨alike.store_alike.mono subset, alike.now_eq⟩

end World.Alike

namespace Action

variable {α β : Type} {own : Set String}

/-- In two worlds that are alike within some collections and have issued equally many identifiers, an
action ends in the same way and leaves them so, and it keeps all other collections. -/
def Local (own : Set String) (act : Action α) : Prop :=
  ∀ world other : World, world.Alike own other → world.issued = other.issued →
    (act.run.run world).1 = (act.run.run other).1 ∧
      (act.run.run world).2.issued = (act.run.run other).2.issued ∧
      (act.run.run world).2.Alike own (act.run.run other).2 ∧
      world.Alike ownᶜ (act.run.run world).2

theorem run_create_of_missing {world : World} {collection : String} {failure : Failure}
    (missing : world.store.documents collection = .error failure) (document : Object) :
    (create collection (.obj document)).run.run world = (.error failure, world) := by
  change create collection (.obj document) world = _
  simp only [create, missing]

namespace Local

theorem ofExcept (outcome : Except Failure α) : (ofExcept outcome).Local own := by
  intro world other alike issued_eq
  exact ⟨rfl, issued_eq, alike, .refl world⟩

theorem pure (value : α) : (Pure.pure value : Action α).Local own :=
  ofExcept (.ok value)

theorem ofFault (outcome : Except Fault α) : (ofFault outcome).Local own :=
  ofExcept (outcome.mapError .fault)

theorem fail (error : StepError) : (Action.fail error : Action α).Local own :=
  ofExcept (.error (.step error))

/-- A look at the store is local when it sees the same in stores that are alike. -/
theorem query {look : Store → Except Failure α}
    (same : ∀ store other : Store, store.Alike own other → look store = look other) :
    (Action.query look).Local own := by
  intro world other alike issued_eq
  exact ⟨same world.store other.store alike.store_alike, issued_eq, alike, .refl world⟩

/-- A question is local when the answer does not depend on the number of calls. -/
theorem ask {answer : Nat → Except Failure α}
    (steady : ∀ call later, answer call = answer later) : (Action.ask answer).Local own := by
  intro world other alike issued_eq
  exact ⟨steady world.calls other.calls, issued_eq, ⟨alike.store_alike, alike.now_eq⟩,
    ⟨.refl world.store, rfl⟩⟩

theorem change {act : Store → Except Failure α × Store} (isLocal : Store.Local own act) :
    (Action.change act).Local own := by
  intro world other alike issued_eq
  obtain ⟨result_eq, stores, kept⟩ := isLocal world.store other.store alike.store_alike
  exact ⟨result_eq, issued_eq, ⟨stores, alike.now_eq⟩, ⟨kept, rfl⟩⟩

/-- A document is given to a collection of the set. -/
theorem create {collection : String} (owned : collection ∈ own) (document : Object) :
    (Action.create collection (.obj document)).Local own := by
  intro world other alike issued_eq
  have documents_eq := alike.store_alike.documents_congr owned
  cases found : other.store.documents collection with
  | error failure =>
      rw [found] at documents_eq
      rw [run_create_of_missing documents_eq document, run_create_of_missing found document]
      exact ⟨rfl, issued_eq, alike, .refl world⟩
  | ok documents =>
      rw [found] at documents_eq
      rw [run_create (Store.documents_eq_ok_iff.1 documents_eq) document,
        run_create (Store.documents_eq_ok_iff.1 found) document, issued_eq]
      exact ⟨rfl, rfl, ⟨alike.store_alike.replace collection _, alike.now_eq⟩,
        ⟨.of_replace world.store owned _, rfl⟩⟩

/-- A local action in front of others, which need only be local for the values that it can have. -/
theorem bind {first : Action α} {next : α → Action β} (begun : first.Local own)
    (ends : ∀ world value, (first.run.run world).1 = .ok value → (next value).Local own) :
    (first >>= next).Local own := by
  intro world other alike issued_eq
  obtain ⟨same, issued, alikeAfter, kept⟩ := begun world other alike issued_eq
  simp only [ExceptT.run_bind, StateT.run_bind]
  rcases ran : first.run.run world with ⟨outcome, after⟩
  rcases ranToo : first.run.run other with ⟨outcomeToo, afterToo⟩
  rw [ran, ranToo] at same issued alikeAfter
  rw [ran] at kept
  obtain rfl : outcome = outcomeToo := same
  cases outcome with
  | error failure => exact ⟨rfl, issued, alikeAfter, kept⟩
  | ok value =>
      obtain ⟨sameAfter, issuedAfter, alikeLast, keptAfter⟩ :=
        ends world value (congrArg Prod.fst ran) after afterToo alikeAfter issued
      exact ⟨sameAfter, issuedAfter, alikeLast, kept.trans keptAfter⟩

/-- Local actions in sequence are local. -/
theorem seq {first : Action α} {next : α → Action β} (begun : first.Local own)
    (ends : ∀ value, (next value).Local own) : (first >>= next).Local own :=
  begun.bind fun _ value _ => ends value

end Local

end Action

/-! ## The handlers -/

/-- Collaborators answer the same whenever they are asked. -/
structure Collaborators.Steady (collaborators : Collaborators) : Prop where
  hash_eq : ∀ hasher, collaborators.hasher = some hasher →
    ∀ call later password, hasher.hash call password = hasher.hash later password
  verify_eq : ∀ hasher, collaborators.hasher = some hasher →
    ∀ call later password hash, hasher.verify call password hash = hasher.verify later password hash
  claims_eq : ∀ verifier, collaborators.verifier = some verifier →
    ∀ call later token, verifier.verify call token = verifier.verify later token

/-- What names the collection that a step of a kind acts on, if it acts on one. -/
def Kind.collection (fields : Object) : Kind → Value
  | .find | .insert | .update | .delete => Value.field fields "collection"
  | .login => (Value.field fields "collection").orElse (.str "users")
  | .input | .validation | .auth | .email => .null

namespace Handler

variable {fields environment : Object} {request : Request} {own : Set String}

theorem requireCollection_local : (Action.query (requireCollection fields)).Local own := by
  apply Action.Local.query
  intro store other alike
  unfold requireCollection hasCollection collectionMissing
  simp only [alike.has_eq, alike.names_eq]

/-- A step that goes on with the collection that its fields name is local when what it goes on with
is, for a collection of the set. -/
theorem requireCollection_bind_local {next : String → Action Value}
    (owned : ∀ collection, Value.field fields "collection" = .str collection → collection ∈ own)
    (goes : ∀ collection ∈ own, (next collection).Local own) :
    (Action.query (requireCollection fields) >>= next).Local own := by
  apply requireCollection_local.bind
  intro world collection required
  have named := (requireCollection_eq_ok_iff.1 required).1
  exact goes collection (owned collection named)

theorem hashPassword_local (steady : request.collaborators.Steady) (data : Object) :
    (hashPassword request data).Local own := by
  unfold hashPassword
  by_cases given : (Value.field data "password").isTruthy = true
  · simp only [given, if_true]
    split
    · exact .fail _
    · rename_i hasher present
      exact .seq (.ask fun call later => steady.hash_eq hasher present call later _) fun _ => .pure _
  · simp only [given]
    exact .pure data

theorem checkPassword_local (steady : request.collaborators.Steady) (user : Document)
    (password : Value) : (checkPassword request user password).Local own := by
  unfold checkPassword
  split
  · exact .pure _
  · rename_i hasher present
    exact .seq (.ask fun call later => steady.verify_eq hasher present call later password _)
      fun _ => .pure _

/-- Replies are local when the actions that lead to them are. -/
def Local (own : Set String) (replies : World → Reply) : Prop :=
  ∀ world other : World, world.Alike own other → world.issued = other.issued →
    (replies world).result = (replies other).result ∧
      (replies world).world.issued = (replies other).world.issued ∧
      (replies world).world.Alike own (replies other).world ∧
      world.Alike ownᶜ (replies world).world

theorem ofAction_local {act : Object → Object → Request → Action Value}
    (isLocal : (act fields environment request).Local own) :
    Local own (ofAction act fields environment request) :=
  isLocal

theorem collectInput_local : Local own (collectInput fields environment request) :=
  ofAction_local (.seq (.ofFault _) fun _ => .pure _)

theorem validateInput_local : Local own (validateInput fields environment request) := by
  apply ofAction_local
  refine .seq (.ofFault _) ?_
  intro found
  split
  · exact .pure _
  · exact .fail _

theorem findDocuments_local
    (owned : ∀ collection, Value.field fields "collection" = .str collection → collection ∈ own) :
    Local own (findDocuments fields environment request) := by
  apply ofAction_local
  apply requireCollection_bind_local owned
  intro collection member
  refine .seq (.ofFault _) ?_
  intro filter
  split
  · exact .seq (.query fun _ _ alike => alike.findMany_eq member filter) fun _ => .pure _
  · exact .seq (.query fun _ _ alike => alike.findOne_eq member filter) fun _ => .pure _

theorem insertDocument_local (steady : request.collaborators.Steady)
    (owned : ∀ collection, Value.field fields "collection" = .str collection → collection ∈ own) :
    Local own (insertDocument fields environment request) := by
  apply ofAction_local
  apply requireCollection_bind_local owned
  intro collection member
  refine .seq (.ofFault _) ?_
  intro data
  split
  · exact .fail _
  · split
    · refine .seq (hashPassword_local steady _) ?_
      intro document
      exact .seq (.create member document) fun _ => .pure _
    · exact .ofFault _

theorem updateDocuments_local
    (owned : ∀ collection, Value.field fields "collection" = .str collection → collection ∈ own) :
    Local own (updateDocuments fields environment request) := by
  apply ofAction_local
  apply requireCollection_bind_local owned
  intro collection member
  refine .seq (.ofFault _) ?_
  intro filter
  refine .seq (.ofFault _) ?_
  intro patch
  split
  · exact .seq (.change (Store.change_local member filter _)) fun _ => .pure _
  · exact .seq (.change (Store.change_local member filter _)) fun _ => .pure _

theorem deleteDocuments_local
    (owned : ∀ collection, Value.field fields "collection" = .str collection → collection ∈ own) :
    Local own (deleteDocuments fields environment request) := by
  apply ofAction_local
  apply requireCollection_bind_local owned
  intro collection member
  refine .seq (.ofFault _) ?_
  intro filter
  split
  · exact .seq (.change (Store.change_local member filter _)) fun _ => .pure _
  · exact .seq (.change (Store.change_local member filter _)) fun _ => .pure _

theorem authenticate_local (steady : request.collaborators.Steady) :
    Local own (authenticate fields environment request) := by
  apply ofAction_local
  refine .seq (.ofExcept _) ?_
  intro token
  split
  · exact .fail _
  · rename_i verifier present
    exact .ask fun call later => steady.claims_eq verifier present call later token

theorem logIn_local (steady : request.collaborators.Steady)
    (owned : ∀ collection, (Value.field fields "collection").orElse (.str "users") =
      .str collection → collection ∈ own) :
    Local own (logIn fields environment request) := by
  apply ofAction_local
  refine .seq (.ofFault _) ?_
  intro email
  refine .seq (.ofFault _) ?_
  intro password
  dsimp only
  split
  · exact .pure _
  · refine .seq (.query ?_) ?_
    · intro store other alike
      unfold hasCollection
      simp only [alike.has_eq]
    · intro registered
      split
      · rename_i collection named
        refine .seq (.query fun _ _ alike => alike.findOne_eq (owned collection named) _) ?_
        intro user
        split
        · exact .pure _
        · exact checkPassword_local steady _ password
      · exact .seq (.ofFault _) fun _ => .pure _

end Handler

/-- A built-in handler that sends no mail is local to the collection that its step names. -/
theorem Kind.handler_local {kind : Kind} (silent : kind ≠ .email) {fields environment : Object}
    {request : Request} (steady : request.collaborators.Steady) {own : Set String}
    (owned : ∀ collection, kind.collection fields = .str collection → collection ∈ own) :
    Handler.Local own (kind.handler fields environment request) := by
  cases kind with
  | input => exact Handler.collectInput_local
  | validation => exact Handler.validateInput_local
  | find => exact Handler.findDocuments_local owned
  | insert => exact Handler.insertDocument_local steady owned
  | update => exact Handler.updateDocuments_local owned
  | delete => exact Handler.deleteDocuments_local owned
  | auth => exact Handler.authenticate_local steady
  | email => exact absurd rfl silent
  | login => exact Handler.logIn_local steady owned

end Workflow
