import Workflow.Value.Basic

/-!
# Fields of objects

What setting, adding and removing fields does to what is found under a name and to the list of
names.  Setting keeps every name single, so an object written as a list of fields is an object.
-/

namespace Workflow

namespace Name

@[simp] theorem identity_text (text : String) : identity (.text text) = .text text := rfl

end Name

namespace Object

/-- What tells the names of an object apart, in order. -/
def identities (object : Object) : List Name.Identity := object.map (·.1.identity)

@[simp] theorem get?_nil (name : Name) : get? [] name = none := rfl

/-- Setting a field changes what is found under its name and nothing else. -/
theorem get?_set (object : Object) (name : Name) (value : Value) (wanted : Name) :
    get? (set object name value) wanted =
      if name.identity = wanted.identity then some value else get? object wanted := by
  induction object with
  | nil => simp [set, get?]
  | cons field rest ih =>
    obtain ⟨known, old⟩ := field
    by_cases same : known.identity = name.identity
    · by_cases found : name.identity = wanted.identity <;> simp [set, get?, same, found]
    · by_cases found : known.identity = wanted.identity
      · have other : ¬ wanted.identity = name.identity := fun back => same (found.trans back)
        simp [set, get?, found, other, Ne.symm other]
      · simp [set, get?, same, found, ih]

/-- A field is present exactly when its name is listed. -/
theorem contains_iff_mem_identities (object : Object) (name : Name) :
    contains object name = true ↔ name.identity ∈ identities object := by
  induction object with
  | nil => simp [contains, identities]
  | cons field rest ih =>
    obtain ⟨known, value⟩ := field
    by_cases same : known.identity = name.identity
    · simp [contains, get?, identities, same]
    · have ih : (get? rest name).isSome = true ↔
          name.identity ∈ rest.map (·.1.identity) := ih
      simp only [contains, get?, identities, List.map_cons, List.mem_cons, same, if_false, ih,
        Ne.symm same, false_or]

/-- Setting a present field keeps the names and their order; an absent one is listed last. -/
theorem identities_set (object : Object) (name : Name) (value : Value) :
    identities (set object name value) =
      if name.identity ∈ identities object then identities object
      else identities object ++ [name.identity] := by
  induction object with
  | nil => simp [set, identities]
  | cons field rest ih =>
    obtain ⟨known, old⟩ := field
    by_cases same : known.identity = name.identity
    · simp [set, identities, same]
    · have ih : (set rest name value).map (·.1.identity) =
          if name.identity ∈ rest.map (·.1.identity) then rest.map (·.1.identity)
          else rest.map (·.1.identity) ++ [name.identity] := ih
      simp only [set, identities, List.map_cons, List.mem_cons, same, if_false, ih,
        Ne.symm same, false_or]
      split <;> simp

/-- Setting a field keeps every name single. -/
theorem nodup_identities_set {object : Object} (single : (identities object).Nodup) (name : Name)
    (value : Value) : (identities (set object name value)).Nodup := by
  rw [identities_set]
  split
  · exact single
  · rename_i absent
    refine List.nodup_append.2 ⟨single, by simp, ?_⟩
    intro a ha b hb same
    exact absent (by simp_all)

/-- Setting all fields of a patch keeps every name single. -/
theorem nodup_identities_merge {object : Object} (single : (identities object).Nodup)
    (patch : Object) : (identities (merge object patch)).Nodup := by
  unfold merge
  induction patch generalizing object with
  | nil => exact single
  | cons field rest ih => exact ih (nodup_identities_set single field.1 field.2)

/-- An object written as a list of fields has every name once. -/
theorem nodup_identities_ofFields (fields : List (Name × Value)) :
    (identities (ofFields fields)).Nodup :=
  @nodup_identities_merge [] List.nodup_nil fields

theorem get?_append (object more : Object) (wanted : Name) :
    get? (object ++ more) wanted = (get? object wanted).or (get? more wanted) := by
  induction object with
  | nil => simp [get?]
  | cons field rest ih =>
    obtain ⟨known, value⟩ := field
    by_cases found : known.identity = wanted.identity <;> simp [get?, found, ih]

theorem get?_congr (object : Object) {name other : Name} (same : name.identity = other.identity) :
    get? object name = get? object other := by
  induction object with
  | nil => rfl
  | cons field rest ih => simp [get?, same, ih]

/-- A default is found only where nothing was. -/
theorem get?_setDefault (object : Object) (name : Name) (value : Value) (wanted : Name) :
    get? (setDefault object name value) wanted =
      if name.identity = wanted.identity then some ((get? object name).getD value)
      else get? object wanted := by
  unfold setDefault contains
  cases present : get? object name with
  | some kept =>
    by_cases same : name.identity = wanted.identity
    · simp [same, ← get?_congr object same, present]
    · simp [same]
  | none =>
    rw [Option.isSome_none, if_neg Bool.false_ne_true, get?_append]
    by_cases same : name.identity = wanted.identity
    · simp [same, ← get?_congr object same, present, get?]
    · simp [get?, same]

/-- An erased field is not found, and every other is found as before. -/
theorem get?_erase (object : Object) (name wanted : Name) :
    get? (erase object name) wanted =
      if name.identity = wanted.identity then none else get? object wanted := by
  unfold erase
  induction object with
  | nil => simp [get?]
  | cons field rest ih =>
    obtain ⟨known, value⟩ := field
    by_cases gone : known.identity = name.identity
    · by_cases same : name.identity = wanted.identity <;> simp_all [get?]
    · by_cases found : known.identity = wanted.identity
      · have other : ¬ wanted.identity = name.identity := fun back => gone (found.trans back)
        simp [get?, found, other, Ne.symm other]
      · simpa [get?, gone, found] using ih

end Object

end Workflow
