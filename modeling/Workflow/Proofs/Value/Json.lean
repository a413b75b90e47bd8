import Workflow.Proofs.Value.Fields
import Workflow.Proofs.Value.Nesting
import Workflow.Template.Canonical
import Workflow.Value.Strict

/-!
# Values that JSON has

JSON names its fields by texts, each once, and has neither infinities nor NaN.  Its values are their
own strict forms, and making the templates in them canonical changes neither that nor their height.
-/

namespace Workflow

/-- Whether names are texts, each of them single. -/
def Name.areTexts (names : List Name) : Bool :=
  names.all (fun name => name matches .text _) && decide (names.map identity).Nodup

namespace Value

mutual

/-- Whether JSON has a value. -/
def isJson : Value → Bool
  | .float number => number.isFinite
  | .arr items => itemsAreJson items
  | .obj fields => Name.areTexts (Object.names fields) && fieldsAreJson fields
  | _ => true

/-- Whether JSON has all items of an array. -/
def itemsAreJson : List Value → Bool
  | [] => true
  | item :: rest => isJson item && itemsAreJson rest

/-- Whether JSON has the values of all fields. -/
def fieldsAreJson : List (Name × Value) → Bool
  | [] => true
  | (_, value) :: rest => isJson value && fieldsAreJson rest

end

end Value

/-- Whether JSON has an object. -/
def Object.isJson (fields : Object) : Bool := Value.isJson (.obj fields)

theorem Name.areTexts_iff {names : List Name} :
    areTexts names = true ↔
      (∀ name ∈ names, ∃ text, name = .text text) ∧ (names.map identity).Nodup := by
  have isText (name : Name) : (name matches .text _) = true ↔ ∃ text, name = .text text := by
    cases name <;> simp
  simp only [areTexts, Bool.and_eq_true, List.all_eq_true, isText, decide_eq_true_eq]

theorem Object.isJson_iff {fields : Object} :
    isJson fields = true ↔ Name.areTexts fields.names = true ∧ Value.fieldsAreJson fields = true := by
  rw [isJson, Value.isJson, Bool.and_eq_true]

/-- Arrays inside one another are JSON, however many there are. -/
theorem isJson_nested (depth : Nat) : (nested depth).isJson = true := by
  induction depth with
  | zero => rfl
  | succ depth ih => simp [nested, Value.isJson, Value.itemsAreJson, ih]

/-! ## Strict forms -/

namespace Value

mutual

/-- A value that JSON has is its own strict form. -/
theorem strict_of_isJson : ∀ {value : Value}, value.isJson = true → value.strict = value
  | .null, _ | .bool _, _ | .int _, _ | .str _, _ => rfl
  | .float _, json => if_pos json
  | .arr items, json => by
      rw [strict, strictItems_of_areJson json]
  | .obj fields, json => by
      obtain ⟨named, json⟩ := Object.isJson_iff.1 json
      obtain ⟨texts, single⟩ := Name.areTexts_iff.1 named
      have single : (Object.identities fields).Nodup := by
        rwa [Object.names, List.map_map] at single
      rw [strict, strictFields_of_areJson texts json, Object.ofFields_of_nodup single]

theorem strictItems_of_areJson :
    ∀ {items : List Value}, itemsAreJson items = true → strictItems items = items
  | [], _ => rfl
  | item :: rest, json => by
      obtain ⟨first, others⟩ := Bool.and_eq_true_iff.1 json
      rw [strictItems, strict_of_isJson first, strictItems_of_areJson others]

theorem strictFields_of_areJson : ∀ {fields : List (Name × Value)},
    (∀ name ∈ Object.names fields, ∃ text, name = .text text) → fieldsAreJson fields = true →
      strictFields fields = fields
  | [], _, _ => rfl
  | (name, value) :: rest, texts, json => by
      obtain ⟨first, others⟩ := Bool.and_eq_true_iff.1 json
      obtain ⟨text, rfl⟩ := texts name List.mem_cons_self
      have later := strictFields_of_areJson
        (fun name member => texts name (List.mem_cons_of_mem _ member)) others
      rw [strictFields, strict_of_isJson first, later]
      rfl

end

end Value

/-! ## Fewer fields -/

namespace Object

theorem fieldsAreJson_erase {fields : Object} (json : Value.fieldsAreJson fields = true)
    (name : Name) : Value.fieldsAreJson (erase fields name) = true := by
  induction fields with
  | nil => rfl
  | cons field rest ih =>
      obtain ⟨first, others⟩ := Bool.and_eq_true_iff.1 json
      have others := ih others
      unfold erase at others ⊢
      rw [List.filter_cons]
      split
      · exact Bool.and_eq_true_iff.2 ⟨first, others⟩
      · exact others

/-- An object that JSON has stays one without a field. -/
theorem isJson_erase {fields : Object} (json : isJson fields = true) (name : Name) :
    isJson (erase fields name) = true := by
  obtain ⟨named, values⟩ := isJson_iff.1 json
  obtain ⟨texts, single⟩ := Name.areTexts_iff.1 named
  have fewer : (erase fields name).names.Sublist fields.names := List.filter_sublist.map _
  refine isJson_iff.2 ⟨Name.areTexts_iff.2 ⟨?_, ?_⟩, fieldsAreJson_erase values name⟩
  · intro name member
    exact texts name (fewer.subset member)
  · exact single.sublist (fewer.map _)

/-- Without a field an object is not higher. -/
theorem fieldsHeight_erase (fields : Object) (name : Name) :
    Value.fieldsHeight (erase fields name) ≤ Value.fieldsHeight fields := by
  induction fields with
  | nil => exact Nat.le_refl _
  | cons field rest ih =>
      unfold erase at ih ⊢
      rw [List.filter_cons]
      split <;> simp only [Value.fieldsHeight] <;> omega

/-- Without a field an object is nested no deeper. -/
theorem fieldsNesting_erase (fields : Object) (name : Name) :
    Value.fieldsNesting (erase fields name) ≤ Value.fieldsNesting fields :=
  Value.fieldsNesting_le_iff.2 fun field member =>
    Value.fieldsNesting_le_iff.1 (Nat.le_refl _) field (List.mem_filter.1 member).1

/-- Setting a field makes an object no higher than the field and it were. -/
theorem fieldsHeight_set_le (fields : Object) (name : Name) (value : Value) :
    Value.fieldsHeight (set fields name value) ≤ max (Value.fieldsHeight fields) value.height := by
  induction fields with
  | nil => simp [set, Value.fieldsHeight]
  | cons field rest ih =>
      rw [set]
      split <;> simp only [Value.fieldsHeight] <;> omega

theorem fieldsHeight_merge_le (fields patch : Object) :
    Value.fieldsHeight (merge fields patch) ≤
      max (Value.fieldsHeight fields) (Value.fieldsHeight patch) := by
  induction patch generalizing fields with
  | nil => simp [merge, Value.fieldsHeight]
  | cons field rest ih =>
      have here := fieldsHeight_set_le fields field.1 field.2
      have later := ih (set fields field.1 field.2)
      simp only [Value.fieldsHeight]
      exact Nat.le_trans later (by omega)

end Object

/-! ## Heights of strict forms -/

namespace Value

mutual

/-- A strict form is not higher. -/
theorem height_strict_le : ∀ value : Value, value.strict.height ≤ value.height
  | .null | .bool _ | .int _ | .str _ => Nat.le_refl _
  | .float _ => by
      rw [strict]
      split <;> exact Nat.le_refl _
  | .arr items => Nat.add_le_add_left (itemsHeight_strict_le items) 1
  | .obj fields => by
      have merged := Object.fieldsHeight_merge_le [] (strictFields fields)
      have strict_le := fieldsHeight_strict_le fields
      simp only [fieldsHeight, Nat.zero_max] at merged
      exact Nat.add_le_add_left (Nat.le_trans merged strict_le) 1

theorem itemsHeight_strict_le : ∀ items : List Value,
    itemsHeight (strictItems items) ≤ itemsHeight items
  | [] => Nat.le_refl _
  | item :: rest => by
      have here := height_strict_le item
      have later := itemsHeight_strict_le rest
      simp only [strictItems, itemsHeight]
      omega

theorem fieldsHeight_strict_le : ∀ fields : List (Name × Value),
    fieldsHeight (strictFields fields) ≤ fieldsHeight fields
  | [] => Nat.le_refl _
  | (_, value) :: rest => by
      have here := height_strict_le value
      have later := fieldsHeight_strict_le rest
      simp only [strictFields, fieldsHeight]
      omega

end

end Value

/-! ## Canonical templates -/

namespace Template

variable (declared : List String)

theorem names_canonicalFields (fields : Object) :
    Object.names (canonicalFields declared fields) = fields.names := by
  induction fields with
  | nil => rfl
  | cons field rest ih => exact congrArg (field.1 :: ·) ih

mutual

/-- Making templates canonical changes nothing about whether JSON has a value. -/
theorem isJson_canonical : ∀ value : Value, (canonical declared value).isJson = value.isJson
  | .null | .bool _ | .int _ | .float _ | .str _ => rfl
  | .arr items => itemsAreJson_canonical items
  | .obj fields => by
      rw [canonical, Value.isJson, Value.isJson, names_canonicalFields, fieldsAreJson_canonical]

theorem itemsAreJson_canonical : ∀ items : List Value,
    Value.itemsAreJson (canonicalItems declared items) = Value.itemsAreJson items
  | [] => rfl
  | item :: rest => by
      rw [canonicalItems, Value.itemsAreJson, Value.itemsAreJson, isJson_canonical item,
        itemsAreJson_canonical rest]

theorem fieldsAreJson_canonical : ∀ fields : List (Name × Value),
    Value.fieldsAreJson (canonicalFields declared fields) = Value.fieldsAreJson fields
  | [] => rfl
  | (name, value) :: rest => by
      rw [canonicalFields, Value.fieldsAreJson, Value.fieldsAreJson, isJson_canonical value,
        fieldsAreJson_canonical rest]

end

mutual

/-- Making templates canonical keeps the height of a value. -/
theorem height_canonical : ∀ value : Value, (canonical declared value).height = value.height
  | .null | .bool _ | .int _ | .float _ | .str _ => rfl
  | .arr items => by rw [canonical, Value.height, Value.height, itemsHeight_canonical]
  | .obj fields => by rw [canonical, Value.height, Value.height, fieldsHeight_canonical]

theorem itemsHeight_canonical : ∀ items : List Value,
    Value.itemsHeight (canonicalItems declared items) = Value.itemsHeight items
  | [] => rfl
  | item :: rest => by
      rw [canonicalItems, Value.itemsHeight, Value.itemsHeight, height_canonical item,
        itemsHeight_canonical rest]

theorem fieldsHeight_canonical : ∀ fields : List (Name × Value),
    Value.fieldsHeight (canonicalFields declared fields) = Value.fieldsHeight fields
  | [] => rfl
  | (name, value) :: rest => by
      rw [canonicalFields, Value.fieldsHeight, Value.fieldsHeight, height_canonical value,
        fieldsHeight_canonical rest]

end

mutual

/-- Making templates canonical keeps the nesting of a value. -/
theorem nesting_canonical : ∀ value : Value, (canonical declared value).nesting = value.nesting
  | .null | .bool _ | .int _ | .float _ | .str _ => rfl
  | .arr items => by rw [canonical, Value.nesting, Value.nesting, itemsNesting_canonical]
  | .obj fields => by rw [canonical, Value.nesting, Value.nesting, fieldsNesting_canonical]

theorem itemsNesting_canonical : ∀ items : List Value,
    Value.itemsNesting (canonicalItems declared items) = Value.itemsNesting items
  | [] => rfl
  | item :: rest => by
      rw [canonicalItems, Value.itemsNesting, Value.itemsNesting, nesting_canonical item,
        itemsNesting_canonical rest]

theorem fieldsNesting_canonical : ∀ fields : List (Name × Value),
    Value.fieldsNesting (canonicalFields declared fields) = Value.fieldsNesting fields
  | [] => rfl
  | (name, value) :: rest => by
      rw [canonicalFields, Value.fieldsNesting, Value.fieldsNesting, nesting_canonical value,
        fieldsNesting_canonical rest]

end

end Template

end Workflow
