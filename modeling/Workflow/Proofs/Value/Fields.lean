import Workflow.Value.Lemmas
import Workflow.Value.Pairs

/-!
# Objects written as fields

An object whose names are single is what its own fields denote.  Setting a field to the value that
it has changes nothing, of two values that it is set to the second counts, and two present fields
can be set in either order.  A default is set only where nothing was.
-/

namespace Workflow

namespace Object

/-- Setting a field to the value that it has changes nothing. -/
theorem set_eq_self {object : Object} {name : Name} {value : Value}
    (found : get? object name = some value) : set object name value = object := by
  induction object with
  | nil => cases found
  | cons field rest ih =>
      obtain ⟨known, old⟩ := field
      rw [get?] at found
      split at found
      · rename_i same
        rw [set, if_pos same, Option.some.inj found]
      · rename_i other
        rw [set, if_neg other, ih found]

section Present

variable {object : Object} {name other : Name} (present : name.identity ∈ identities object)
include present

/-- Of two values that a present field is set to, the second counts. -/
theorem set_set (same : name.identity = other.identity) (first second : Value) :
    set (set object name first) other second = set object other second := by
  induction object with
  | nil => cases present
  | cons field rest ih =>
      obtain ⟨known, old⟩ := field
      by_cases here : known.identity = name.identity
      · simp only [set, if_pos here, if_pos (here.trans same)]
      · have later : name.identity ∈ identities rest := by
          simpa [identities, Ne.symm here] using present
        have further : ¬ known.identity = other.identity :=
          fun there => here (there.trans same.symm)
        simp only [set, if_neg here, if_neg further, ih later]

/-- A present field can be set before or after another one. -/
theorem set_comm (apart : ¬ name.identity = other.identity) (value otherValue : Value) :
    set (set object name value) other otherValue =
      set (set object other otherValue) name value := by
  induction object with
  | nil => cases present
  | cons field rest ih =>
      obtain ⟨known, old⟩ := field
      by_cases here : known.identity = name.identity
      · have further : ¬ known.identity = other.identity :=
          fun there => apart (here.symm.trans there)
        simp only [set, if_pos here, if_neg further]
      · have later : name.identity ∈ identities rest := by
          simpa [identities, Ne.symm here] using present
        by_cases there : known.identity = other.identity
        · simp only [set, if_neg here, if_pos there]
        · simp only [set, if_neg here, if_neg there, ih later]

end Present

/-- An absent field is set at the end. -/
theorem set_of_not_mem {object : Object} {name : Name}
    (absent : name.identity ∉ identities object) (value : Value) :
    set object name value = object ++ [(name, value)] := by
  induction object with
  | nil => rfl
  | cons field rest ih =>
      obtain ⟨known, old⟩ := field
      obtain ⟨other, absent⟩ : ¬ name.identity = known.identity ∧
          name.identity ∉ identities rest := by
        simpa [identities] using absent
      rw [set, if_neg (Ne.symm other), ih absent, List.cons_append]

theorem setDefault_of_contains {object : Object} {name : Name}
    (present : contains object name = true) (value : Value) :
    setDefault object name value = object :=
  if_pos present

/-- A default is set where nothing was. -/
theorem setDefault_of_not_contains {object : Object} {name : Name}
    (absent : ¬ contains object name = true) (value : Value) :
    setDefault object name value = set object name value := by
  have unlisted := mt (contains_iff_mem_identities object name).2 absent
  rw [setDefault, if_neg absent, set_of_not_mem unlisted]

theorem nodup_identities_setDefault {object : Object} (single : (identities object).Nodup)
    (name : Name) (value : Value) : (identities (setDefault object name value)).Nodup := by
  by_cases present : contains object name = true
  · rwa [setDefault_of_contains present]
  · rw [setDefault_of_not_contains present]
    exact nodup_identities_set single name value

/-- Fields that are absent from an object and told apart from each other are set at its end. -/
theorem merge_of_nodup {object patch : Object} (single : (identities (object ++ patch)).Nodup) :
    merge object patch = object ++ patch := by
  induction patch generalizing object with
  | nil => rw [List.append_nil]; rfl
  | cons field rest ih =>
      obtain ⟨name, value⟩ := field
      have split : object ++ (name, value) :: rest = (object ++ [(name, value)]) ++ rest := by simp
      have absent : name.identity ∉ identities object := by
        intro present
        rw [identities, List.map_append] at single
        exact (List.nodup_append.1 single).2.2 _ present _ List.mem_cons_self rfl
      rw [split] at single ⊢
      rw [← ih single, ← set_of_not_mem absent]
      rfl

theorem ofFields_of_nodup {object : Object} (single : (identities object).Nodup) :
    ofFields object = object :=
  merge_of_nodup single

end Object

namespace Value

theorem field_set (object : Object) (name : Name) (value : Value) (wanted : Name) :
    field (Object.set object name value) wanted =
      if name.identity = wanted.identity then value else field object wanted := by
  rw [field, Object.get?_set]
  split <;> rfl

theorem field_setDefault (object : Object) (name : Name) (value : Value) (wanted : Name) :
    field (Object.setDefault object name value) wanted =
      if name.identity = wanted.identity then (Object.get? object name).getD value
      else field object wanted := by
  rw [field, Object.get?_setDefault]
  split <;> rfl

end Value

namespace Pairs

theorem nodup_setFrom {object : Object} (single : (Object.identities object).Nodup) (index : Nat)
    (items : List Value) : (Object.identities (setFrom object index items).1).Nodup := by
  induction items generalizing object index with
  | nil => exact single
  | cons item rest ih =>
      rw [setFrom]
      split
      · rename_i name value paired
        exact ih (Object.nodup_identities_set single name value) (index + 1)
      · exact single

/-- The names of an object that is updated stay single. -/
theorem nodup_update {object : Object} (single : (Object.identities object).Nodup)
    (value : Value) : (Object.identities (update object value).1).Nodup := by
  unfold update
  split
  · rename_i fields
    exact Object.nodup_identities_merge single fields
  · split
    · rename_i items found
      exact nodup_setFrom single 0 items
    · exact single

/-- The names of the object that a value denotes are single. -/
theorem nodup_of_toObject {value : Value} {object : Object}
    (denotes : toObject value = .ok object) : (Object.identities object).Nodup := by
  unfold toObject at denotes
  split at denotes
  · rename_i read update_eq
    obtain rfl := Except.ok.inj denotes
    have single := @nodup_update [] List.nodup_nil (value.orElse (.obj []))
    rwa [update_eq] at single
  · cases denotes

end Pairs

/-- Fields denote the object that is written as them. -/
theorem Pairs.toObject_fields (fields : List (Name × Value)) :
    Pairs.toObject (.obj fields) = .ok (Object.ofFields fields) := by
  have given : Value.orElse (.obj fields) (.obj []) = .obj fields := by
    cases fields <;> rfl
  rw [toObject, given, update]
  rfl

/-- An object denotes itself. -/
theorem Pairs.toObject_obj {object : Object} (single : (Object.identities object).Nodup) :
    Pairs.toObject (.obj object) = .ok object := by
  rw [toObject_fields, Object.ofFields_of_nodup single]

end Workflow
