import Workflow.Proofs.Engine.History
import Workflow.Proofs.Handler.Login

/-!
# Stored passwords

An insertion stores a password only as the hasher returned it.  An update stores what its patch
gives, so the passwords in the store are hashes as long as those that updates give are.
-/

namespace Workflow

/-- A value is a text that the hasher returns for some password. -/
def Hasher.Returns (hasher : Hasher) (value : Value) : Prop :=
  ∃ text call password, value = .str text ∧ hasher.hash call password = .ok (.str text)

/-- The hasher returns nothing but texts. -/
def Hasher.ReturnsTexts (hasher : Hasher) : Prop :=
  ∀ call password hash, hasher.hash call password = .ok hash → ∃ text, hash = .str text

/-- The password among some fields, if one is given there, is a hash. -/
def Hasher.Covers (hasher : Hasher) (fields : Object) : Prop :=
  ∀ password, Object.get? fields "password" = some password → password.isTruthy = true →
    hasher.Returns password

/-- The passwords of all stored documents are hashes. -/
def Hasher.Guards (hasher : Hasher) (store : Store) : Prop :=
  ∀ collection documents, store.documents? collection = some documents →
    ∀ document ∈ documents, hasher.Covers document

namespace Hasher

variable {hasher : Hasher} {fields : Object}

/-- Merging a patch keeps passwords hashes when the patch does. -/
theorem covers_merge {patch : Object} (covered : hasher.Covers fields)
    (given : hasher.Covers (Object.ofFields patch)) :
    hasher.Covers (Object.merge fields patch) := by
  intro password found truthy
  rw [Object.get?_merge] at found
  rcases Option.or_eq_some_iff.1 found with patched | ⟨-, kept⟩
  · exact given password patched truthy
  · exact covered password kept truthy

/-- A document that is inserted has a hash for a password. -/
theorem covers_of_hashes {collaborators : Collaborators} {call : Nat} {data document : Object}
    (present : collaborators.hasher = some hasher) (texts : hasher.ReturnsTexts)
    (hashes : Handler.Hashes collaborators call data document) : hasher.Covers document := by
  cases hashes with
  | absent untouched =>
      intro password found truthy
      rw [Value.field, found] at untouched
      cases untouched.symm.trans truthy
  | @hashed other hash given present' answered =>
      obtain rfl : hasher = other := Option.some.inj (present.symm.trans present')
      rcases texts call _ hash answered with ⟨text, rfl⟩
      intro password found truthy
      rw [Object.get?_set, if_pos rfl] at found
      obtain rfl := Option.some.inj found
      exact ⟨text, call, _, rfl, answered⟩

/-! ## Stores -/

variable {store : Store} {collection : String} {documents others : List Document}

/-- Documents with hashes for passwords may replace others. -/
theorem Guards.replace (guarded : hasher.Guards store)
    (covered : ∀ document ∈ others, hasher.Covers document) :
    hasher.Guards (store.replace collection others) := by
  intro wanted found registered
  rw [Store.documents?_replace] at registered
  split at registered
  · obtain ⟨-, -, rfl⟩ := Option.map_eq_some_iff.1 registered
    exact covered
  · exact guarded wanted found registered

/-- So may documents that have been given the fields of a patch with a hash for a password. -/
theorem Guards.patch {patch : Object} (guarded : hasher.Guards store)
    (registered : store.documents? collection = some documents)
    (given : hasher.Covers (Object.ofFields patch))
    (each : ∀ document ∈ others,
      document ∈ documents ∨ ∃ old ∈ documents, document = Object.merge old patch) :
    hasher.Guards (store.replace collection others) := by
  apply guarded.replace
  intro document member
  rcases each document member with kept | ⟨old, kept, rfl⟩
  · exact guarded collection documents registered document kept
  · exact covers_merge (guarded collection documents registered old kept) given

end Hasher

namespace Handler

variable {kind : Kind} {fields environment : Object} {request : Request} {world : World}
  {hasher : Hasher}

/-- The password that an update gives, if it gives one, is a hash. -/
def GivesHash (hasher : Hasher) (fields environment : Object) : Prop :=
  ∀ patch, Template.resolveMapping environment (fieldOr fields "update" "data") = .ok patch →
    hasher.Covers (Object.ofFields (Pairs.given patch).1)

/-- No effect stores a password that is not a hash, but for an update that gives one. -/
theorem Effect.guarded {outcome : Except Failure Value} {store : Store}
    (present : request.collaborators.hasher = some hasher) (texts : hasher.ReturnsTexts)
    (gives : kind = .update → GivesHash hasher fields environment)
    (effect : Effect kind fields environment request world outcome store)
    (guarded : hasher.Guards world.store) : hasher.Guards store := by
  cases effect with
  | read reads outcome => exact guarded
  | stopped failure => exact guarded
  | @inserted collection documents data document stored kind_eq targets resolved hashes stored_eq =>
      apply guarded.replace
      intro other member
      rcases List.mem_append.1 member with kept | added
      · exact guarded collection documents targets.present other kept
      · obtain rfl := List.mem_singleton.1 added
        intro password found
        rw [stored_eq, Object.get?_setDefault, if_neg (by decide)] at found
        exact Hasher.covers_of_hashes present texts hashes password found
  | patchedFirst kind_eq targets patches =>
      exact guarded.patch targets.present (gives kind_eq _ patches.resolved) fun _ =>
        Store.mem_patchFirst
  | patchedAll kind_eq targets patches =>
      exact guarded.patch targets.present (gives kind_eq _ patches.resolved) fun _ =>
        Store.mem_patchAll
  | @deleted collection documents kept count kind_eq targets fewer =>
      apply guarded.replace
      intro document member
      exact guarded collection documents targets.present document (fewer.mem member)

end Handler

namespace Engine

/-- The passwords that the updates of an execution give are hashes. -/
def GivesHashes (hasher : Hasher) (engine : Engine) (steps : List Step) (input headers : Value)
    (executionId : Option String) : Prop :=
  ∀ sent position step here there, Pairs.toObject headers = .ok sent →
    steps[position]? = some step →
    engine.Arrives steps input executionId sent position here there →
    step.kind = Kind.update.name → Handler.GivesHash hasher step.fields here

/-- With the built-in handlers, an execution whose updates give hashes keeps passwords hashes. -/
theorem keeps_guards {engine : Engine} {hasher : Hasher} (standard : engine.registry = .standard)
    (present : engine.collaborators.hasher = some hasher) (texts : hasher.ReturnsTexts)
    {steps : List Step} {input headers : Value} {executionId : Option String}
    (gives : GivesHashes hasher engine steps input headers executionId) :
    engine.Keeps hasher.Guards steps input headers executionId := by
  intro sent position step here there sent_eq stepAt arrives guarded
  unfold Execution.reply
  split
  · rename_i handler found
    rcases Registry.standard_find_eq_ok_iff.1 (standard ▸ found) with ⟨kind, name_eq, rfl⟩
    have effect := Handler.effect_of_kind step.fields here (engine.request executionId sent) there
      kind
    apply effect.guarded present texts _ guarded
    rintro rfl
    exact gives sent position step here there sent_eq stepAt arrives name_eq.symm
  · exact guarded

/-! ## An update after an insertion -/

/-- An engine with a hasher and an empty collection of users. -/
def beginner : Engine where
  collaborators := { hasher := some .marking }
  scene := { world := { store := .ofNames ["users"] } }

/-- Insert a user with a password, then update all users. -/
def signUpThenUpdate (patch : Object) : List Step :=
  let data : Object := [("_id", .str "u1"), ("password", .str "first")]
  [⟨"step1", "dbInsert", [("collection", .str "users"), ("data", .obj data)], "createdRecord"⟩,
    ⟨"step2", "dbUpdate", [("collection", .str "users"), ("update", .obj patch)], "updatedRecord"⟩]

theorem marking_returnsTexts : Hasher.marking.ReturnsTexts := by
  intro call password hash hashed
  obtain ⟨text, -, rfl⟩ := Hasher.marking_agrees.text call password hash hashed
  exact ⟨text, rfl⟩

/-! ## Main result -/

/-- Throughout a history that begins with empty collections, every stored password that counts as
given is a text that the hasher returned, as long as the updates give no other passwords. -/
theorem passwords_are_hashes (start engine : Engine) (hasher : Hasher)
    (standard : start.registry = .standard) (present : start.collaborators.hasher = some hasher)
    (texts : hasher.ReturnsTexts) (vacant : start.scene.world.store.IsVacant)
    (reached : Reaches (GivesHashes hasher) start engine) (collection : String)
    (documents : List Document)
    (registered : engine.scene.world.store.documents? collection = some documents)
    (document : Document) (member : document ∈ documents)
    (given : (Value.field document "password").isTruthy = true) :
    ∃ text call password, Value.field document "password" = .str text ∧
      hasher.hash call password = .ok (.str text) := by
  have leaves : start.registry.LeavesInput := standard ▸ Registry.standard_leavesInput
  have begun : hasher.Guards start.scene.world.store := by
    intro name found registered document member
    rw [vacant name found registered] at member
    cases member
  have guarded : hasher.Guards engine.scene.world.store := by
    apply reached.preserves leaves _ begun
    intro engine steps input headers executionId registry_eq collaborators_eq gives
    exact keeps_guards (registry_eq.trans standard) (collaborators_eq ▸ present) texts gives
  cases found : Object.get? document "password" with
  | none =>
      rw [Value.field, found] at given
      cases given
  | some password =>
      rw [Value.field, found] at given ⊢
      exact guarded collection documents registered document member password found given

/-- An update that gives no password leaves the hash that the insertion stored. -/
theorem passwords_are_hashes_otherField :
    let after := (beginner.execute (signUpThenUpdate [("active", .bool true)]) .null .null none).2
    let user : Document :=
      [("_id", .str "u1"), ("password", .str "hash of first"), ("active", .bool true)]
    after.scene.world.store.documents? "users" = some [user] ∧
      ∃ text call password, Value.field user "password" = .str text ∧
        Hasher.marking.hash call password = .ok (.str text) := by
  intro after user
  have stored : after.scene.world.store.documents? "users" = some [user] := by
    with_unfolding_all rfl
  have gives : GivesHashes .marking beginner (signUpThenUpdate [("active", .bool true)]) .null
      .null none := by
    intro sent position step here there sent_eq stepAt arrives update patch resolved
    match position, stepAt with
    | 0, rfl => exact absurd update (by decide)
    | 1, rfl =>
        obtain rfl := Except.ok.inj resolved
        intro password found
        cases found
  refine ⟨stored, ?_⟩
  exact passwords_are_hashes beginner after .marking rfl rfl marking_returnsTexts
    (Store.isVacant_ofNames _) (.execute .start gives) "users" [user] stored user
    (List.mem_singleton_self _) rfl

/-- Not every history keeps stored passwords hashes. -/
theorem passwords_not_always_hashes :
    ¬ ∀ (start engine : Engine) (hasher : Hasher), start.registry = .standard →
      start.collaborators.hasher = some hasher → hasher.ReturnsTexts →
      start.scene.world.store.IsVacant →
      Reaches (fun _ _ _ _ _ => True) start engine →
      ∀ collection documents, engine.scene.world.store.documents? collection = some documents →
        ∀ document ∈ documents, (Value.field document "password").isTruthy = true →
          ∃ text call password, Value.field document "password" = .str text ∧
            hasher.hash call password = .ok (.str text) := by
  intro hashes
  let steps := signUpThenUpdate [("password", .str "second")]
  let user : Document := [("_id", .str "u1"), ("password", .str "second")]
  have stored : (beginner.execute steps .null .null none).2.scene.world.store.documents? "users" =
      some [user] := by
    with_unfolding_all rfl
  obtain ⟨text, call, password, text_eq, hashed⟩ :=
    hashes beginner _ .marking rfl rfl marking_returnsTexts (Store.isVacant_ofNames _)
      (.execute .start trivial) "users" [user] stored user (List.mem_singleton_self _) rfl
  obtain rfl : "second" = text := Value.str.inj text_eq
  cases password with
  | str text =>
      have marked : "hash of " ++ text = "second" := Value.str.inj (Except.ok.inj hashed)
      have characters := congrArg String.toList marked
      simp [String.toList_append] at characters
  | _ => cases hashed

end Engine

end Workflow
