import Mathlib.Data.List.Basic
import Workflow.Proofs.Store.Journal

/-!
# One selection

The operations on selected documents agree on which these are.  An operation on one document is about
the first of those that its counterpart on all is about, and deleting one document after the other
comes to deleting all.
-/

namespace Workflow.Store

/-! ## The first selected document -/

section Documents

variable {filter : Object} {documents earlier later : List Document} {document : Document}

/-- Without a selected document a deletion changes nothing. -/
theorem removeFirst_of_unselected (unselected : documents.find? (selects filter) = none) :
    removeFirst filter documents = (0, documents) := by
  induction documents with
  | nil => rfl
  | cons document rest ih =>
      rw [List.find?_cons] at unselected
      split at unselected
      · cases unselected
      · rename_i other
        rw [removeFirst, if_neg (Bool.not_eq_true _ ▸ other), ih unselected]

/-- A deletion takes out the first selected document. -/
theorem removeFirst_of_isFirst (first : IsFirst filter documents earlier document later) :
    removeFirst filter documents = (1, earlier ++ later) := by
  obtain ⟨rfl, unselected, selected⟩ := first
  induction earlier with
  | nil => rw [List.nil_append, removeFirst, if_pos selected, List.nil_append]
  | cons other rest ih =>
      obtain ⟨notThis, notThose⟩ := List.forall_mem_cons.1 unselected
      rw [List.cons_append, removeFirst, if_neg (Bool.not_eq_true _ ▸ notThis), ih notThose]
      rfl

/-- The first selected document stands in front of all others that are selected. -/
theorem IsFirst.filter_eq (first : IsFirst filter documents earlier document later) :
    documents.filter (selects filter) = document :: (earlier ++ later).filter (selects filter) := by
  have unselected : earlier.filter (selects filter) = [] := by
    rw [List.filter_eq_nil_iff]
    intro other member
    rw [first.unselected other member]
    exact Bool.false_ne_true
  rw [first.eq, List.filter_append, List.filter_append, unselected, List.nil_append,
    List.nil_append, List.filter_cons_of_pos first.selected]

/-- Taking out the first selected document takes out none that is not selected. -/
theorem IsFirst.filter_not_eq (first : IsFirst filter documents earlier document later) :
    documents.filter (!selects filter ·) = (earlier ++ later).filter (!selects filter ·) := by
  rw [first.eq, List.filter_append, List.filter_append, List.filter_cons_of_neg]
  simp [first.selected]

end Documents

/-! ## Deleting in turn -/

/-- Deleting selected documents one at a time, until none is left to be deleted, takes a number of
deletions from one store to another. -/
inductive DeletesInTurn (collection : String) (filter : Value) : Nat → Store → Store → Prop where
  | done {store last : Store} (deleted : store.deleteOne collection filter = (.ok 0, last)) :
      DeletesInTurn collection filter 0 store last
  | next {count : Nat} {store between last : Store}
      (deleted : store.deleteOne collection filter = (.ok 1, between))
      (rest : DeletesInTurn collection filter count between last) :
      DeletesInTurn collection filter (count + 1) store last

variable {store : Store} {collection : String} {documents : List Document}

theorem replace_replace (store : Store) (collection : String) (first second : List Document) :
    (store.replace collection first).replace collection second =
      store.replace collection second := by
  simp only [replace, List.map_map]
  congr 1
  apply List.map_congr_left
  intro entry _
  by_cases here : entry.1 = collection <;> simp [here]

theorem findMany_of_present (present : store.documents? collection = some documents)
    (filter : Filter) :
    store.findMany collection (.obj filter.toObject) =
      .ok (documents.filter (selects filter.toObject)) := by
  rw [findMany, documents_eq_ok_iff.2 present, Outcome.ok_bind, readFilter_toObject]
  rfl

theorem findOne_of_present (present : store.documents? collection = some documents)
    (filter : Filter) :
    store.findOne collection (.obj filter.toObject) =
      .ok (documents.find? (selects filter.toObject)) := by
  rw [findOne, documents_eq_ok_iff.2 present, Outcome.ok_bind, readFilter_toObject]
  rfl

theorem deleteOne_of_present (present : store.documents? collection = some documents)
    (filter : Filter) :
    store.deleteOne collection (.obj filter.toObject) =
      (.ok (removeFirst filter.toObject documents).1,
        store.replace collection (removeFirst filter.toObject documents).2) :=
  change_of_present present filter _

theorem deleteMany_of_present (present : store.documents? collection = some documents)
    (filter : Filter) :
    store.deleteMany collection (.obj filter.toObject) =
      (.ok (documents.filter (selects filter.toObject)).length,
        store.replace collection (documents.filter (!selects filter.toObject ·))) := by
  have counted : documents.length - (documents.filter (!selects filter.toObject ·)).length =
      (documents.filter (selects filter.toObject)).length := by
    rw [List.length_eq_length_filter_add (selects filter.toObject), Nat.add_sub_cancel]
  rw [deleteMany, change_of_present present]
  dsimp only
  rw [counted]
  rfl

/-- Deleting in turn ends, after as many deletions as there are selected documents, with all others
left. -/
theorem deletesInTurn_of_present (present : store.documents? collection = some documents)
    (filter : Filter) :
    DeletesInTurn collection (.obj filter.toObject)
      (documents.filter (selects filter.toObject)).length store
      (store.replace collection (documents.filter (!selects filter.toObject ·))) := by
  induction selected : documents.filter (selects filter.toObject) generalizing store documents with
  | nil =>
      have unselected : documents.find? (selects filter.toObject) = none := by
        rw [← List.head?_filter, selected, List.head?_nil]
      have kept : documents.filter (!selects filter.toObject ·) = documents := by
        rw [List.filter_eq_self]
        intro document member
        simpa using List.filter_eq_nil_iff.1 selected document member
      rw [kept]
      apply DeletesInTurn.done
      rw [deleteOne_of_present present, removeFirst_of_unselected unselected]
  | cons document rest ih =>
      have found : documents.find? (selects filter.toObject) = some document := by
        rw [← List.head?_filter, selected, List.head?_cons]
      obtain ⟨earlier, later, first⟩ := exists_isFirst found
      have shrunk := first.filter_eq.symm.trans selected
      have there : (store.replace collection (earlier ++ later)).documents? collection =
          some (earlier ++ later) := by
        rw [documents?_replace_of_present present, if_pos rfl]
      have continued := ih there (List.cons.inj shrunk).2
      rw [replace_replace, ← first.filter_not_eq] at continued
      apply DeletesInTurn.next ?_ continued
      rw [deleteOne_of_present present, removeFirst_of_isFirst first]

/-! ## All operations -/

/-- All operations on selected documents of a registered collection share one selection.  Those on
many documents find, patch in place and delete the same documents, and count them; those on one
document find, patch and delete the first of these, or nothing when there is none; and deleting in
turn makes as many deletions as the deletion of all counts, and leaves the same store. -/
theorem operations_share_selection (present : store.documents? collection = some documents)
    (filter : Filter) (patch : Object) :
    let wanted : Value := .obj filter.toObject
    let selected := documents.filter (selects filter.toObject)
    store.findMany collection wanted = .ok selected ∧
    store.updateMany collection wanted (.obj patch) =
      (.ok selected.length, store.replace collection (documents.map fun document =>
        if selects filter.toObject document then Object.merge document patch else document)) ∧
    store.deleteMany collection wanted =
      (.ok selected.length,
        store.replace collection (documents.filter (!selects filter.toObject ·))) ∧
    DeletesInTurn collection wanted selected.length store
      (store.deleteMany collection wanted).2 ∧
    store.findOne collection wanted = .ok selected.head? ∧
    (selected.head? = none →
      (store.updateOne collection wanted (.obj patch)).1 = .ok none ∧
      (store.updateOne collection wanted (.obj patch)).2.Same store ∧
      (store.deleteOne collection wanted).1 = .ok 0 ∧
      (store.deleteOne collection wanted).2.Same store) ∧
    ∀ document, selected.head? = some document →
      ∃ earlier later, IsFirst filter.toObject documents earlier document later ∧
        store.updateOne collection wanted (.obj patch) =
          (.ok (some (Object.merge document patch)),
            store.replace collection (earlier ++ Object.merge document patch :: later)) ∧
        store.deleteOne collection wanted =
          (.ok 1, store.replace collection (earlier ++ later)) := by
  intro wanted selected
  refine ⟨findMany_of_present present filter, ?_, deleteMany_of_present present filter, ?_, ?_, ?_, ?_⟩
  · rw [updateMany, change_of_present present, patchAll_of_whole rfl, List.countP_eq_length_filter]
    rfl
  · rw [deleteMany_of_present present]
    exact deletesInTurn_of_present present filter
  · rw [findOne_of_present present, List.head?_filter]
  · intro nothing
    rw [List.head?_filter] at nothing
    have kept : (store.replace collection documents).Same store := (replace_same_iff present).2 rfl
    rw [updateOne, change_of_present present, patchFirst_of_unselected nothing,
      deleteOne_of_present present, removeFirst_of_unselected nothing]
    exact ⟨rfl, kept, rfl, kept⟩
  · intro document found
    rw [List.head?_filter] at found
    obtain ⟨earlier, later, first⟩ := exists_isFirst found
    refine ⟨earlier, later, first, ?_, ?_⟩
    · rw [updateOne, change_of_present present, patchFirst_of_isFirst first]
      rfl
    · rw [deleteOne_of_present present, removeFirst_of_isFirst first]

/-- Two of three users live in Paris.  Whoever deletes one of them after the other is left with the
third. -/
theorem operations_share_selection_nested :
    let user (id city : String) : Document :=
      [("_id", .str id), ("address", .obj [("city", .str city)])]
    let filter : Filter := [("address.city", .str "Paris")]
    let wanted : Value := .obj filter.toObject
    let store (users : List Document) : Store := ⟨[("users", users)]⟩
    let whole := store [user "1" "Paris", user "2" "Rome", user "3" "Paris"]
    whole.documents? "users" = some [user "1" "Paris", user "2" "Rome", user "3" "Paris"] ∧
      whole.findMany "users" wanted = .ok [user "1" "Paris", user "3" "Paris"] ∧
      whole.findOne "users" wanted = .ok (some (user "1" "Paris")) ∧
      whole.deleteMany "users" wanted = (.ok 2, store [user "2" "Rome"]) ∧
      DeletesInTurn "users" wanted 2 whole (store [user "2" "Rome"]) := by
  intro user filter wanted store whole
  have present : whole.documents? "users" =
      some [user "1" "Paris", user "2" "Rome", user "3" "Paris"] := rfl
  obtain ⟨many, -, deleted, inTurn, one, -⟩ := operations_share_selection present filter []
  have selected : [user "1" "Paris", user "2" "Rome", user "3" "Paris"].filter
      (selects filter.toObject) = [user "1" "Paris", user "3" "Paris"] := by
    with_unfolding_all rfl
  have others : [user "1" "Paris", user "2" "Rome", user "3" "Paris"].filter
      (!selects filter.toObject ·) = [user "2" "Rome"] := by
    with_unfolding_all rfl
  rw [selected] at many deleted inTurn one
  rw [others] at deleted
  rw [deleted] at inTurn
  exact ⟨present, many, one, deleted, inTurn⟩

end Workflow.Store
