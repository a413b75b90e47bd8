import Workflow.Proofs.Store.Selection
import Workflow.Proofs.Template.Reference

/-!
# Updates that are repeated

Updating all selected documents once more changes nothing, whether or not they are still selected.
A patch says the same of every document about the paths whose roots it sets, so it leaves all the
documents selected that its filter has selected, or none of them.
-/

namespace Workflow.Store

/-- A document after an update of all that are selected. -/
def patched (filter : Filter) (patch : Object) (document : Document) : Document :=
  if selects filter.toObject document then Object.merge document patch else document

/-- Whether a patch gives what is wanted under every path of a filter whose root it sets. -/
def suits (filter : Filter) (patch : Object) : Bool :=
  let given := Object.ofFields patch
  filter.all fun wanted =>
    !Object.contains given (Path.root wanted.1) || (Path.lookup given wanted.1).same wanted.2

variable {store : Store} {collection : String} {documents : List Document} {filter : Filter}
  {patch : Object} {document : Document}

/-! ## What a patched document is found to be -/

/-- A path whose root is patched leads into the patch, and any other to where it led before. -/
theorem lookup_merge (document patch : Object) (path : String) :
    Path.lookup (Object.merge document patch) path =
      if Object.contains (Object.ofFields patch) (Path.root path) then
        Path.lookup (Object.ofFields patch) path
      else Path.lookup document path := by
  have found := Object.get?_merge document patch (Path.root path)
  split
  · rename_i given
    obtain ⟨value, there⟩ := Option.isSome_iff_exists.1 given
    apply Path.lookup_congr_root
    rw [Value.field, Value.field, found, there, Option.some_or]
  · rename_i absent
    apply Path.lookup_congr_root
    rw [Value.field, Value.field, found, Option.not_isSome_iff_eq_none.1 absent, Option.none_or]

theorem selects_toObject (filter : Filter) (document : Document) :
    selects filter.toObject document =
      filter.all fun wanted => (Path.lookup document wanted.1).same wanted.2 := by
  rw [selects, Filter.toObject, List.all_map]
  rfl

/-- A selected document that is patched is selected again exactly if the patch suits the filter. -/
theorem selects_merge (selected : selects filter.toObject document = true) :
    selects filter.toObject (Object.merge document patch) = suits filter patch := by
  rw [selects_toObject, List.all_eq_true] at selected
  rw [selects_toObject, suits, Bool.eq_iff_iff, List.all_eq_true, List.all_eq_true]
  refine forall₂_congr fun wanted member => ?_
  have before := selected wanted member
  rw [lookup_merge]
  split
  · rename_i given
    rw [given, Bool.not_true, Bool.false_or]
  · rename_i absent
    rw [Bool.not_eq_true] at absent
    rw [absent, before, Bool.not_false, Bool.true_or]

theorem selects_patched (filter : Filter) (patch : Object) (document : Document) :
    selects filter.toObject (patched filter patch document) =
      (selects filter.toObject document && suits filter patch) := by
  unfold patched
  split
  · rename_i selected
    rw [selects_merge selected, selected, Bool.true_and]
  · rename_i unselected
    rw [Bool.not_eq_true] at unselected
    rw [unselected, Bool.false_and]

theorem patched_patched (filter : Filter) (patch : Object) (document : Document) :
    patched filter patch (patched filter patch document) = patched filter patch document := by
  unfold patched
  split
  · split
    · exact Object.merge_merge document patch
    · rfl
  · rfl

/-! ## The second update -/

/-- A bulk update patches the selected documents where they are and counts them. -/
theorem updateMany_of_present (present : store.documents? collection = some documents)
    (filter : Filter) (patch : Object) :
    store.updateMany collection (.obj filter.toObject) (.obj patch) =
      (.ok (documents.filter (selects filter.toObject)).length,
        store.replace collection (documents.map (patched filter patch))) := by
  rw [updateMany, change_of_present present, patchAll_of_whole rfl, List.countP_eq_length_filter]
  rfl

/-- After an update its filter selects all documents that it selected before, or none. -/
theorem length_filter_map_patched (filter : Filter) (patch : Object) (documents : List Document) :
    ((documents.map (patched filter patch)).filter (selects filter.toObject)).length =
      if suits filter patch then (documents.filter (selects filter.toObject)).length else 0 := by
  rw [List.filter_map, List.length_map]
  simp only [Function.comp_def, selects_patched]
  cases suits filter patch <;> simp

/-- A bulk update is idempotent.  The second of two updates with one filter and one patch leaves the
store as it is, also when the patch sets what the filter tests.  It counts no more documents than
the first: as many if the patch suits the filter, and none otherwise. -/
theorem updateMany_repeated (present : store.documents? collection = some documents)
    (filter : Filter) (patch : Object) :
    let wanted : Value := .obj filter.toObject
    let selected := documents.filter (selects filter.toObject)
    let again := if suits filter patch then selected.length else 0
    let once := store.replace collection (documents.map (patched filter patch))
    store.updateMany collection wanted (.obj patch) = (.ok selected.length, once) ∧
    once.updateMany collection wanted (.obj patch) = (.ok again, once) ∧
    again ≤ selected.length := by
  intro wanted selected again once
  have there : once.documents? collection = some (documents.map (patched filter patch)) := by
    rw [documents?_replace_of_present present, if_pos rfl]
  have twice : patched filter patch ∘ patched filter patch = patched filter patch :=
    funext (patched_patched filter patch)
  refine ⟨updateMany_of_present present filter patch, ?_, ?_⟩
  · rw [updateMany_of_present there, length_filter_map_patched, replace_replace, List.map_map,
      twice]
  · dsimp only [again]
    split
    · exact le_rfl
    · exact Nat.zero_le _

/-- Two of three users live in Paris and move to Rome.  The second time nobody is left to move. -/
theorem updateMany_repeated_moved :
    let user (id city : String) : Document :=
      [("_id", .str id), ("address", .obj [("city", .str city)])]
    let filter : Filter := [("address.city", .str "Paris")]
    let wanted : Value := .obj filter.toObject
    let move : Object := [("address", .obj [("city", .str "Rome")])]
    let before : Store :=
      ⟨[("users", [user "1" "Paris", user "2" "Oslo", user "3" "Paris"])]⟩
    let after : Store := ⟨[("users", [user "1" "Rome", user "2" "Oslo", user "3" "Rome"])]⟩
    before.documents? "users" = some [user "1" "Paris", user "2" "Oslo", user "3" "Paris"] ∧
      before.updateMany "users" wanted (.obj move) = (.ok 2, after) ∧
      after.updateMany "users" wanted (.obj move) = (.ok 0, after) := by
  intro user filter wanted move before after
  have present : before.documents? "users" =
      some [user "1" "Paris", user "2" "Oslo", user "3" "Paris"] := rfl
  obtain ⟨first, second, -⟩ := updateMany_repeated present filter move
  have selected : [user "1" "Paris", user "2" "Oslo", user "3" "Paris"].filter
      (selects filter.toObject) = [user "1" "Paris", user "3" "Paris"] := by
    with_unfolding_all rfl
  have once :
      before.replace "users"
        ([user "1" "Paris", user "2" "Oslo", user "3" "Paris"].map (patched filter move)) =
      after := by
    with_unfolding_all rfl
  have unsuited : suits filter move = false := by with_unfolding_all rfl
  rw [selected, once] at first
  rw [once, unsuited] at second
  exact ⟨present, first, second⟩

end Workflow.Store
