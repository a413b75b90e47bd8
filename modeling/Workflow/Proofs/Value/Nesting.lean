import Workflow.Value.Height

/-!
# Values inside one another

Values of every height, and the number of arrays and objects that stand inside one another in a value.
-/

namespace Workflow

/-- A value with arrays inside one another. -/
def nested : Nat → Value
  | 0 => .null
  | depth + 1 => .arr [nested depth]

theorem height_nested (depth : Nat) : (nested depth).height = depth + 1 := by
  induction depth with
  | zero => rfl
  | succ depth ih => simp [nested, Value.height, Value.itemsHeight, ih, Nat.add_comm]

namespace Value

mutual

/-- The most arrays and objects that stand inside one another in a value. -/
def nesting : Value → Nat
  | .arr items => 1 + itemsNesting items
  | .obj fields => 1 + fieldsNesting fields
  | _ => 0

/-- The greatest nesting of several values, zero if there are none. -/
def itemsNesting : List Value → Nat
  | [] => 0
  | item :: rest => max (nesting item) (itemsNesting rest)

/-- The greatest nesting of the values of several fields, zero if there are none. -/
def fieldsNesting : List (Name × Value) → Nat
  | [] => 0
  | (_, value) :: rest => max (nesting value) (fieldsNesting rest)

end

mutual

theorem nesting_le_height : ∀ value : Value, value.nesting ≤ value.height
  | .arr items => Nat.add_le_add_left (itemsNesting_le_itemsHeight items) 1
  | .obj fields => Nat.add_le_add_left (fieldsNesting_le_fieldsHeight fields) 1
  | .null | .bool _ | .int _ | .float _ | .str _ => Nat.zero_le _

theorem itemsNesting_le_itemsHeight : ∀ items : List Value, itemsNesting items ≤ itemsHeight items
  | [] => Nat.le_refl 0
  | item :: rest => by
      have here := nesting_le_height item
      have later := itemsNesting_le_itemsHeight rest
      rw [itemsNesting, itemsHeight]
      omega

theorem fieldsNesting_le_fieldsHeight : ∀ fields : List (Name × Value),
    fieldsNesting fields ≤ fieldsHeight fields
  | [] => Nat.le_refl 0
  | (_, value) :: rest => by
      have here := nesting_le_height value
      have later := fieldsNesting_le_fieldsHeight rest
      rw [fieldsNesting, fieldsHeight]
      omega

end

theorem itemsNesting_le_iff {items : List Value} {depth : Nat} :
    itemsNesting items ≤ depth ↔ ∀ item ∈ items, item.nesting ≤ depth := by
  induction items with
  | nil => simp [itemsNesting]
  | cons item rest ih => rw [itemsNesting, Nat.max_le, ih, List.forall_mem_cons]

theorem fieldsNesting_le_iff {fields : Object} {depth : Nat} :
    fieldsNesting fields ≤ depth ↔ ∀ field ∈ fields, field.2.nesting ≤ depth := by
  induction fields with
  | nil => simp [fieldsNesting]
  | cons field rest ih => rw [fieldsNesting, Nat.max_le, ih, List.forall_mem_cons]

theorem fieldsNesting_set_le (fields : Object) (name : Name) (value : Value) :
    fieldsNesting (Object.set fields name value) ≤ max (fieldsNesting fields) value.nesting := by
  induction fields with
  | nil => simp [Object.set, fieldsNesting]
  | cons field rest ih =>
      rw [Object.set]
      split <;> simp only [fieldsNesting] <;> omega

/-- Setting a scalar nests an object no deeper. -/
theorem nesting_set_le {fields : Object} {value : Value} (flat : value.nesting = 0) (name : Name) :
    (obj (Object.set fields name value)).nesting ≤ (obj fields).nesting := by
  have bound := fieldsNesting_set_le fields name value
  rw [nesting, nesting]
  omega

end Value

end Workflow
