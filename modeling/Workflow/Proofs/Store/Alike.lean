import Mathlib.Data.Set.Basic
import Workflow.Proofs.Store.Changes

/-!
# Stores that are alike within some collections

A store operation on a collection reads nothing but the names of all collections and the documents of
its own, and replaces nothing but these documents.
-/

namespace Workflow.Store

/-- Two stores register the same collections, with the same documents in those of a set. -/
structure Alike (within : Set String) (store other : Store) : Prop where
  names_eq : store.names = other.names
  documents_eq : ∀ collection ∈ within,
    store.documents? collection = other.documents? collection

namespace Alike

variable {within fewer : Set String} {store other third : Store} {collection : String}

theorem refl (store : Store) : store.Alike within store :=
  ⟨rfl, fun _ _ => rfl⟩

theorem symm (alike : store.Alike within other) : other.Alike within store :=
  ⟨alike.names_eq.symm, fun collection member => (alike.documents_eq collection member).symm⟩

theorem trans (first : store.Alike within other) (second : other.Alike within third) :
    store.Alike within third :=
  ⟨first.names_eq.trans second.names_eq, fun collection member =>
    (first.documents_eq collection member).trans (second.documents_eq collection member)⟩

theorem mono (alike : store.Alike within other) (subset : fewer ⊆ within) :
    store.Alike fewer other :=
  ⟨alike.names_eq, fun collection member => alike.documents_eq collection (subset member)⟩

/-- Whether a collection is registered is told by the names. -/
theorem has_eq (alike : store.Alike within other) (collection : String) :
    store.has collection = other.has collection := by
  have known (store : Store) : store.has collection = true ↔ collection ∈ store.names := by
    simp [has, documents?, names, List.find?_isSome]
  rw [Bool.eq_iff_iff, known, known, alike.names_eq]

theorem documents_congr (alike : store.Alike within other) (owned : collection ∈ within) :
    store.documents collection = other.documents collection := by
  rw [Store.documents, Store.documents, alike.documents_eq collection owned, alike.names_eq]

theorem findOne_eq (alike : store.Alike within other) (owned : collection ∈ within)
    (filter : Value) : store.findOne collection filter = other.findOne collection filter := by
  rw [findOne, findOne, alike.documents_congr owned]

theorem findMany_eq (alike : store.Alike within other) (owned : collection ∈ within)
    (filter : Value) : store.findMany collection filter = other.findMany collection filter := by
  rw [findMany, findMany, alike.documents_congr owned]

theorem replace (alike : store.Alike within other) (collection : String)
    (documents : List Document) :
    (store.replace collection documents).Alike within (other.replace collection documents) := by
  constructor
  · rw [names_replace, names_replace, alike.names_eq]
  · intro wanted member
    rw [documents?_replace, documents?_replace, alike.documents_eq wanted member]

/-- Replacing the documents of a collection keeps those of all others. -/
theorem of_replace (store : Store) (owned : collection ∈ within) (documents : List Document) :
    store.Alike withinᶜ (store.replace collection documents) := by
  constructor
  · rw [names_replace]
  · intro wanted absent
    rw [documents?_replace, if_neg]
    rintro rfl
    exact absent owned

end Alike

/-- What an operation does in two stores: it ends in the same way, leaves stores that are alike
within a set of collections again, and keeps the documents of all other collections. -/
def Local {α : Type} (own : Set String) (act : Store → Except Failure α × Store) : Prop :=
  ∀ store other : Store, store.Alike own other →
    (act store).1 = (act other).1 ∧ (act store).2.Alike own (act other).2 ∧
      store.Alike ownᶜ (act store).2

/-- A change of a collection is local to it. -/
theorem change_local {α : Type} {own : Set String} {collection : String}
    (owned : collection ∈ own) (filter : Value)
    (act : Object → List Document → Except Fault α × List Document) :
    Local own fun store => store.change collection filter act := by
  intro store other alike
  have documents_eq := alike.documents_congr owned
  cases present : other.documents collection with
  | error failure =>
      rw [present] at documents_eq
      simp only [change, documents_eq, present, true_and]
      exact ⟨alike, .refl store⟩
  | ok documents =>
      rw [present] at documents_eq
      cases read : readFilter filter documents with
      | error failure =>
          simp only [change, documents_eq, present, read, true_and]
          exact ⟨alike, .refl store⟩
      | ok fields =>
          simp only [change, documents_eq, present, read, true_and]
          exact ⟨alike.replace collection _, .of_replace store owned _⟩

end Workflow.Store
