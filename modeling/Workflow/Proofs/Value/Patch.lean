import Workflow.Proofs.Value.Fields

/-!
# What a patch gives

A patch gives fields up to the first pair that is malformed, and updating an object merges exactly
these fields into it.  So whether a patch breaks off does not depend on the object, and merging a
patch once more changes nothing.
-/

namespace Workflow

namespace Object

/-- Of a repeated name the last value counts, and a name that is not set keeps its value. -/
theorem get?_merge_reverse (object patch : Object) (name : Name) :
    get? (merge object patch) name = (get? patch.reverse name).or (get? object name) := by
  induction patch generalizing object with
  | nil => rfl
  | cons field rest ih =>
      have step : merge object (field :: rest) = merge (set object field.1 field.2) rest := rfl
      rw [step, ih, get?_set, List.reverse_cons, get?_append, Option.or_assoc]
      by_cases same : field.1.identity = name.identity <;> simp [get?, same]

/-- A merged object has the fields that the patch denotes, and otherwise those it had. -/
theorem get?_merge (object patch : Object) (name : Name) :
    get? (merge object patch) name = (get? (ofFields patch) name).or (get? object name) := by
  rw [get?_merge_reverse, ofFields, get?_merge_reverse, get?_nil, Option.or_none]

/-- Setting a field leaves the names of an object in their places. -/
theorem names_set (object : Object) (name : Name) (value : Value) :
    names object <+: names (set object name value) := by
  induction object with
  | nil => exact List.nil_prefix
  | cons field rest ih =>
      rw [set]
      split
      · exact List.prefix_rfl
      · exact (List.prefix_cons_inj field.1).2 ih

/-- Merging a patch leaves the names of an object in their places; new names follow them. -/
theorem names_merge (object patch : Object) : names object <+: names (merge object patch) := by
  induction patch generalizing object with
  | nil => exact List.prefix_rfl
  | cons field rest ih => exact (names_set object field.1 field.2).trans (ih _)

/-- No name of an object gets lost when a patch is merged into it. -/
theorem identities_subset_merge (object patch : Object) :
    identities object ⊆ identities (merge object patch) := by
  have listed (object : Object) : identities object = (names object).map Name.identity := by
    simp [identities, names]
  rw [listed, listed]
  exact List.map_subset _ (names_merge object patch).subset

/-- What a present field was set to does not matter once a patch sets it. -/
theorem merge_set_of_mem {object patch : Object} {name : Name}
    (present : name.identity ∈ identities object) (patched : name.identity ∈ identities patch)
    (value : Value) : merge (set object name value) patch = merge object patch := by
  induction patch generalizing object with
  | nil => cases patched
  | cons field rest ih =>
      obtain ⟨other, otherValue⟩ := field
      change merge (set (set object name value) other otherValue) rest =
        merge (set object other otherValue) rest
      by_cases same : name.identity = other.identity
      · rw [set_set present same]
      · have later : name.identity ∈ identities rest := by
          simpa [identities, same] using patched
        have still : name.identity ∈ identities (set object other otherValue) :=
          identities_subset_merge object [(other, otherValue)] present
        rw [set_comm present same, ih still later]

theorem get?_merge_of_not_mem {object patch : Object} {name : Name}
    (absent : name.identity ∉ identities patch) :
    get? (merge object patch) name = get? object name := by
  induction patch generalizing object with
  | nil => rfl
  | cons field rest ih =>
      obtain ⟨apart, later⟩ :
          ¬ name.identity = field.1.identity ∧ name.identity ∉ identities rest := by
        simpa [identities] using absent
      change get? (merge (set object field.1 field.2) rest) name = get? object name
      rw [ih later, get?_set, if_neg (Ne.symm apart)]

/-- Merging a patch once more changes nothing. -/
theorem merge_merge (object patch : Object) :
    merge (merge object patch) patch = merge object patch := by
  induction patch generalizing object with
  | nil => rfl
  | cons field rest ih =>
      obtain ⟨name, value⟩ := field
      let merged := merge (set object name value) rest
      change merge (set merged name value) rest = merged
      by_cases again : name.identity ∈ identities rest
      · -- The rest of the patch sets the field anew.
        have present : name.identity ∈ identities merged := by
          apply identities_subset_merge
          exact (contains_iff_mem_identities _ name).1 (by simp [contains, get?_set])
        rw [merge_set_of_mem present again]
        exact ih _
      · have kept : get? merged name = some value := by
          rw [get?_merge_of_not_mem again, get?_set, if_pos rfl]
        rw [set_eq_self kept]
        exact ih _

end Object

namespace Pairs

/-- The fields that pairs give from a position on, up to the first that is malformed. -/
def givenFrom : Nat → List Value → Object × Option Fault
  | _, [] => ([], none)
  | index, item :: rest =>
    match pairOf index item with
    | .ok field => (field :: (givenFrom (index + 1) rest).1, (givenFrom (index + 1) rest).2)
    | .error fault => ([], some fault)

/-- The fields that a value gives, up to the first pair that is malformed. -/
def given : Value → Object × Option Fault
  | .obj fields => (fields, none)
  | value =>
    match itemsOf? value with
    | some items => givenFrom 0 items
    | none => ([], some (.notIterable value.type))

theorem setFrom_eq_merge (object : Object) (index : Nat) (items : List Value) :
    setFrom object index items =
      (Object.merge object (givenFrom index items).1, (givenFrom index items).2) := by
  induction items generalizing object index with
  | nil => rfl
  | cons item rest ih =>
      cases paired : pairOf index item with
      | ok field =>
          simp only [setFrom, givenFrom, paired, ih]
          rfl
      | error fault =>
          simp only [setFrom, givenFrom, paired]
          rfl

/-- Updating an object merges what the patch gives, and breaks off where that does. -/
theorem update_eq_merge (object : Object) (patch : Value) :
    update object patch = (Object.merge object (given patch).1, (given patch).2) := by
  cases patch with
  | obj fields => rfl
  | arr items => exact setFrom_eq_merge object 0 items
  | str text => exact setFrom_eq_merge object 0 _
  | null => rfl
  | bool flag => rfl
  | int number => rfl
  | float number => rfl

end Pairs

end Workflow
