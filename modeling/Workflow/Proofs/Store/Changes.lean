import Workflow.Proofs.Value.Patch
import Workflow.Store

/-!
# Changes of a collection

What patching and deleting do to the list of documents of a collection.  A patch that is whole
reaches every document it is meant for; one that breaks off stops at the first selected document,
which then has the fields that came before.
-/

namespace Workflow.Store

theorem documents_eq_ok_iff {store : Store} {collection : String} {documents : List Document} :
    store.documents collection = .ok documents ↔ store.documents? collection = some documents := by
  unfold Store.documents
  cases store.documents? collection <;> simp

variable {filter : Object} {patch : Value} {documents : List Document}

/-- A selected document stands in a list behind documents that are not selected. -/
structure IsFirst (filter : Object) (documents earlier : List Document) (document : Document)
    (later : List Document) : Prop where
  eq : documents = earlier ++ document :: later
  unselected : ∀ other ∈ earlier, selects filter other = false
  selected : selects filter document = true

theorem exists_isFirst {document : Document}
    (found : documents.find? (selects filter) = some document) :
    ∃ earlier later, IsFirst filter documents earlier document later := by
  obtain ⟨selected, earlier, later, eq, unselected⟩ := List.find?_eq_some_iff_append.1 found
  exact ⟨earlier, later, eq, by simpa using unselected, selected⟩

/-! ## Stores without documents -/

/-- No collection has a document. -/
def IsVacant (store : Store) : Prop :=
  ∀ collection documents, store.documents? collection = some documents → documents = []

theorem IsVacant.register {store : Store} (vacant : store.IsVacant) (name : String) :
    (store.register name).IsVacant := by
  unfold Store.register
  split
  · exact vacant
  · intro collection found registered
    simp only [documents?, List.find?_append, Option.map_or] at registered
    rcases Option.or_eq_some_iff.1 registered with known | ⟨-, added⟩
    · exact vacant collection found known
    · obtain ⟨entry, entry_found, rfl⟩ := Option.map_eq_some_iff.1 added
      rw [List.mem_singleton.1 (List.mem_of_find?_eq_some entry_found)]

theorem isVacant_ofNames (names : List String) : (ofNames names).IsVacant := by
  have grows (store : Store) (vacant : store.IsVacant) :
      (names.foldl register store).IsVacant := by
    induction names generalizing store with
    | nil => exact vacant
    | cons name rest ih => exact ih (store.register name) (vacant.register name)
  refine grows {} ?_
  intro collection found registered
  cases registered

/-! ## Stores with the same documents -/

/-- Two stores register the same collections, with the same documents in each. -/
structure Same (store other : Store) : Prop where
  names_eq : store.names = other.names
  documents_eq : ∀ collection, store.documents? collection = other.documents? collection

theorem Same.refl (store : Store) : store.Same store :=
  ⟨rfl, fun _ => rfl⟩

/-- Replacing the documents of a registered collection keeps them all exactly when the documents are
those that it has. -/
theorem replace_same_iff {store : Store} {collection : String} {others : List Document}
    (present : store.documents? collection = some documents) :
    (store.replace collection others).Same store ↔ others = documents := by
  constructor
  · intro same
    have found := same.documents_eq collection
    rw [documents?_replace, if_pos rfl, present] at found
    exact Option.some.inj found
  · rintro rfl
    refine ⟨names_replace store collection others, ?_⟩
    intro wanted
    rw [documents?_replace]
    split
    · rename_i same
      rw [← same, present]
      rfl
    · rfl

/-! ## Patches -/

/-- Without a selected document a patch changes nothing. -/
theorem patchFirst_of_unselected (unselected : documents.find? (selects filter) = none) :
    patchFirst filter patch documents = (.ok none, documents) := by
  induction documents with
  | nil => rfl
  | cons document rest ih =>
      rw [List.find?_cons] at unselected
      split at unselected
      · cases unselected
      · rename_i other
        rw [patchFirst, if_neg (Bool.not_eq_true _ ▸ other), ih unselected]

/-- A patch gives its fields to the first selected document, also when it breaks off after them. -/
theorem patchFirst_of_isFirst {earlier later : List Document} {document : Document}
    (first : IsFirst filter documents earlier document later) :
    patchFirst filter patch documents =
      (match (Pairs.given patch).2 with
        | none => .ok (some (Object.merge document (Pairs.given patch).1))
        | some fault => .error fault,
        earlier ++ Object.merge document (Pairs.given patch).1 :: later) := by
  obtain ⟨rfl, unselected, selected⟩ := first
  induction earlier with
  | nil =>
      rw [List.nil_append, patchFirst, if_pos selected, Pairs.update_eq_merge]
      split <;> simp_all
  | cons other rest ih =>
      obtain ⟨notThis, notThose⟩ := List.forall_mem_cons.1 unselected
      rw [List.cons_append, patchFirst, if_neg (Bool.not_eq_true _ ▸ notThis), ih notThose]
      rfl

/-- A patch of the first selected document fails only by breaking off there. -/
theorem patchFirst_error {fault : Fault}
    (failed : (patchFirst filter patch documents).1 = .error fault) :
    (Pairs.given patch).2 = some fault ∧
      ∃ earlier document later, IsFirst filter documents earlier document later ∧
        (patchFirst filter patch documents).2 =
          earlier ++ Object.merge document (Pairs.given patch).1 :: later := by
  cases search : documents.find? (selects filter) with
  | none =>
      rw [patchFirst_of_unselected search] at failed
      cases failed
  | some document =>
      obtain ⟨earlier, later, first⟩ := exists_isFirst search
      rw [patchFirst_of_isFirst first] at failed ⊢
      refine ⟨?_, earlier, document, later, first, rfl⟩
      cases broken : (Pairs.given patch).2 with
      | none => simp [broken] at failed
      | some other => simpa [broken] using failed

/-- After a patch of the first selected document, every document is as before or has been given the
fields of the patch. -/
theorem mem_patchFirst {document : Document}
    (member : document ∈ (patchFirst filter patch documents).2) :
    document ∈ documents ∨
      ∃ old ∈ documents, document = Object.merge old (Pairs.given patch).1 := by
  cases search : documents.find? (selects filter) with
  | none =>
      rw [patchFirst_of_unselected search] at member
      exact .inl member
  | some old =>
      obtain ⟨earlier, later, first⟩ := exists_isFirst search
      rw [patchFirst_of_isFirst first] at member
      rw [first.eq]
      simp only [List.mem_append, List.mem_cons] at member ⊢
      rcases member with before | rfl | behind
      · exact .inl (.inl before)
      · exact .inr ⟨old, .inr (.inl rfl), rfl⟩
      · exact .inl (.inr (.inr behind))

/-- A patch that breaks off stops at the first selected document, however many it is meant for. -/
theorem patchAll_of_broken {fault : Fault} (broken : (Pairs.given patch).2 = some fault) :
    patchAll filter patch documents =
      ((patchFirst filter patch documents).1.map fun _ => 0,
        (patchFirst filter patch documents).2) := by
  induction documents with
  | nil => rfl
  | cons document rest ih =>
      rw [patchAll, patchFirst]
      split
      · simp only [Pairs.update_eq_merge, broken]
        rfl
      · rw [ih]

/-- A whole patch gives its fields to every selected document. -/
theorem patchAll_of_whole (whole : (Pairs.given patch).2 = none) :
    patchAll filter patch documents =
      (.ok (documents.countP (selects filter)),
        documents.map fun document =>
          if selects filter document then Object.merge document (Pairs.given patch).1
          else document) := by
  induction documents with
  | nil => rfl
  | cons document rest ih =>
      rw [patchAll]
      split
      · rename_i selected
        simp only [Pairs.update_eq_merge, whole, ih]
        simp [selected, Except.map]
      · rename_i other
        rw [ih]
        simp [other]

/-- A patch of all selected documents fails only by breaking off at the first of them. -/
theorem patchAll_error {fault : Fault}
    (failed : (patchAll filter patch documents).1 = .error fault) :
    (Pairs.given patch).2 = some fault ∧
      ∃ earlier document later, IsFirst filter documents earlier document later ∧
        (patchAll filter patch documents).2 =
          earlier ++ Object.merge document (Pairs.given patch).1 :: later := by
  cases ending : (Pairs.given patch).2 with
  | none =>
      rw [patchAll_of_whole ending] at failed
      cases failed
  | some other =>
      rw [patchAll_of_broken ending] at failed ⊢
      have firstFailed : (patchFirst filter patch documents).1 = .error fault := by
        cases outcome : (patchFirst filter patch documents).1 with
        | ok found => simp [outcome, Except.map] at failed
        | error cause => simpa [outcome, Except.map] using failed
      rw [← ending]
      exact patchFirst_error firstFailed

/-- After a patch of all selected documents, every document is as before or has been given the fields
of the patch. -/
theorem mem_patchAll {document : Document}
    (member : document ∈ (patchAll filter patch documents).2) :
    document ∈ documents ∨
      ∃ old ∈ documents, document = Object.merge old (Pairs.given patch).1 := by
  cases ending : (Pairs.given patch).2 with
  | none =>
      rw [patchAll_of_whole ending] at member
      obtain ⟨old, present, rfl⟩ := List.mem_map.1 member
      split
      · exact .inr ⟨old, present, rfl⟩
      · exact .inl present
  | some fault =>
      rw [patchAll_of_broken ending] at member
      exact mem_patchFirst member

/-! ## Deletions -/

theorem removeFirst_eq_eraseP :
    (removeFirst filter documents).2 = documents.eraseP (selects filter) := by
  induction documents with
  | nil => rfl
  | cons document rest ih =>
      rw [removeFirst, List.eraseP_cons, ← ih]
      cases selects filter document <;> rfl

/-! ## Changes -/

/-- A change of a collection fails before it acts, or acts on the documents that its filter reads. -/
theorem change_cases {α : Type} (store : Store) (collection : String) (wanted : Value)
    (act : Object → List Document → Except Fault α × List Document) :
    (∃ failure, store.change collection wanted act = (.error failure, store)) ∨
      ∃ documents filter, store.documents? collection = some documents ∧
        readFilter wanted documents = .ok filter ∧
        store.change collection wanted act =
          ((act filter documents).1.mapError .fault,
            store.replace collection (act filter documents).2) := by
  unfold change
  split
  · rename_i failure missing
    exact .inl ⟨failure, rfl⟩
  · rename_i documents present
    split
    · rename_i failure unread
      exact .inl ⟨failure, rfl⟩
    · rename_i filter read
      exact .inr ⟨documents, filter, documents_eq_ok_iff.1 present, read, rfl⟩

end Workflow.Store
