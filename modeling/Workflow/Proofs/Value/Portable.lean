import Workflow.Proofs.Value.Json
import Workflow.Value.Text

/-!
# Values that JSON carries without loss

What JSON has it carries, as long as no integer has too many digits to be written.  Of any other value
without such integers it carries the strict form.
-/

namespace Workflow

theorem Number.tooLong_zero : tooLong 0 = false := by
  rw [tooLong, decide_eq_false_iff_not, Nat.not_le]
  exact Nat.pow_pos (by decide)

/-! ## Integers -/

/-- Whether a name is no integer with too many digits. -/
def Name.integerFits : Name → Bool
  | .int number => !Number.tooLong number
  | _ => true

namespace Value

mutual

/-- Whether no integer in a value has too many digits, be it a name or a value. -/
def integersFit : Value → Bool
  | .int number => !Number.tooLong number
  | .arr items => itemsIntegersFit items
  | .obj fields => fieldsIntegersFit fields
  | _ => true

/-- Whether no integer in the items of an array has too many digits. -/
def itemsIntegersFit : List Value → Bool
  | [] => true
  | item :: rest => integersFit item && itemsIntegersFit rest

/-- Whether no integer in the fields of an object has too many digits. -/
def fieldsIntegersFit : List (Name × Value) → Bool
  | [] => true
  | (name, value) :: rest => name.integerFits && integersFit value && fieldsIntegersFit rest

end

end Value

/-- Whether no integer in an object has too many digits. -/
def Object.integersFit (fields : Object) : Bool := Value.integersFit (.obj fields)

theorem Object.integersFit_erase {fields : Object} (short : integersFit fields = true) (name : Name) :
    integersFit (erase fields name) = true := by
  induction fields with
  | nil => rfl
  | cons field rest ih =>
      simp only [integersFit, Value.integersFit, Value.fieldsIntegersFit, erase, Bool.and_eq_true,
        List.filter_cons] at ih short ⊢
      split
      · exact Bool.and_eq_true_iff.2 ⟨Bool.and_eq_true_iff.2 short.1, ih short.2⟩
      · exact ih short.2

namespace Template

variable (declared : List String)

mutual

/-- Making templates canonical changes no integers. -/
theorem integersFit_canonical : ∀ value : Value,
    (canonical declared value).integersFit = value.integersFit
  | .null | .bool _ | .int _ | .float _ | .str _ => rfl
  | .arr items => itemsIntegersFit_canonical items
  | .obj fields => fieldsIntegersFit_canonical fields

theorem itemsIntegersFit_canonical : ∀ items : List Value,
    Value.itemsIntegersFit (canonicalItems declared items) = Value.itemsIntegersFit items
  | [] => rfl
  | item :: rest => by
      rw [canonicalItems, Value.itemsIntegersFit, Value.itemsIntegersFit, integersFit_canonical item,
        itemsIntegersFit_canonical rest]

theorem fieldsIntegersFit_canonical : ∀ fields : List (Name × Value),
    Value.fieldsIntegersFit (canonicalFields declared fields) = Value.fieldsIntegersFit fields
  | [] => rfl
  | (name, value) :: rest => by
      rw [canonicalFields, Value.fieldsIntegersFit, Value.fieldsIntegersFit,
        integersFit_canonical value, fieldsIntegersFit_canonical rest]

end

end Template

/-! ## Setting a field -/

namespace Object

/-- A field of an object in which one was set was there before, or has the value that was set. -/
theorem mem_set {object : Object} {name : Name} {value : Value} {field : Name × Value}
    (member : field ∈ set object name value) :
    field ∈ object ∨ (field.1 = name ∨ field.1 ∈ names object) ∧ field.2 = value := by
  induction object with
  | nil =>
      obtain rfl := List.mem_singleton.1 member
      exact .inr ⟨.inl rfl, rfl⟩
  | cons known rest ih =>
      rw [set] at member
      split at member
      · rcases List.mem_cons.1 member with rfl | later
        · exact .inr ⟨.inr List.mem_cons_self, rfl⟩
        · exact .inl (List.mem_cons_of_mem _ later)
      · rcases List.mem_cons.1 member with rfl | later
        · exact .inl List.mem_cons_self
        · rcases ih later with here | ⟨named, value_eq⟩
          · exact .inl (List.mem_cons_of_mem _ here)
          · exact .inr ⟨named.imp_right (List.mem_cons_of_mem _), value_eq⟩

end Object

namespace Value

/-- A value that a JSON text carries without loss: its integers are not too long, its doubles are
finite, and its fields are named by texts, each once. -/
inductive IsPortable : Value → Prop where
  | null : IsPortable .null
  | bool (flag : Bool) : IsPortable (.bool flag)
  | int {number : Int} (short : Number.tooLong number = false) : IsPortable (.int number)
  | float {number : Number.Double} (finite : number.isFinite = true) : IsPortable (.float number)
  | str (text : String) : IsPortable (.str text)
  | arr {items : List Value} (portable : ∀ item ∈ items, IsPortable item) : IsPortable (.arr items)
  | obj {fields : Object} (named : Name.areTexts (Object.names fields) = true)
      (portable : ∀ field ∈ fields, IsPortable field.2) : IsPortable (.obj fields)

theorem isPortable_single {name : String} {value : Value} (portable : value.IsPortable) :
    (obj [(name, value)]).IsPortable := by
  refine .obj rfl ?_
  rintro field (_ | ⟨_, ⟨⟩⟩)
  exact portable

theorem IsPortable.set {object : Object} {value : Value} (carried : (Value.obj object).IsPortable)
    (portable : value.IsPortable) (name : String) :
    (Value.obj (Object.set object name value)).IsPortable := by
  cases carried with
  | obj named values =>
      obtain ⟨texts, single⟩ := Name.areTexts_iff.1 named
      rw [Object.names, List.map_map] at single
      refine .obj (Name.areTexts_iff.2 ⟨?_, ?_⟩) ?_
      · intro word listed
        obtain ⟨field, member, rfl⟩ := List.mem_map.1 listed
        rcases Object.mem_set member with here | ⟨same | here, -⟩
        · exact texts _ (List.mem_map_of_mem here)
        · exact ⟨name, same⟩
        · exact texts _ here
      · rw [Object.names, List.map_map]
        exact Object.nodup_identities_set single name value
      · intro field member
        rcases Object.mem_set member with here | ⟨-, same⟩
        · exact values field here
        · rwa [same]

/-- Setting fields that are named by texts to values that JSON carries. -/
theorem IsPortable.merge {object patch : Object} (carried : (Value.obj object).IsPortable)
    (each : ∀ field ∈ patch, (∃ text, field.1 = .text text) ∧ field.2.IsPortable) :
    (Value.obj (Object.merge object patch)).IsPortable := by
  induction patch generalizing object with
  | nil => exact carried
  | cons field rest ih =>
      obtain ⟨⟨⟨text, named⟩, portable⟩, later⟩ := List.forall_mem_cons.1 each
      rw [Object.merge, List.foldl_cons, named]
      exact ih (carried.set portable text) later

/-! ## Strict forms -/

mutual

/-- JSON carries the strict form of a value without integers of too many digits. -/
theorem isPortable_strict : ∀ value : Value, value.integersFit = true → value.strict.IsPortable
  | .null => fun _ => .null
  | .bool flag => fun _ => .bool flag
  | .int number => fun short => .int (by simpa only [integersFit, Bool.not_eq_true'] using short)
  | .float number => fun _ => by
      rw [strict]
      split
      · exact .float ‹_›
      · exact .null
  | .str text => fun _ => .str text
  | .arr items => fun short => .arr (isPortable_strictItems items short)
  | .obj fields => fun short =>
      IsPortable.merge (.obj rfl (List.forall_mem_nil _)) (isPortable_strictFields fields short)

theorem isPortable_strictItems : ∀ items : List Value, itemsIntegersFit items = true →
    ∀ item ∈ strictItems items, item.IsPortable
  | [] => fun _ => List.forall_mem_nil _
  | item :: rest => fun short => by
      obtain ⟨here, later⟩ := Bool.and_eq_true_iff.1 short
      exact List.forall_mem_cons.2 ⟨isPortable_strict item here, isPortable_strictItems rest later⟩

theorem isPortable_strictFields : ∀ fields : List (Name × Value),
    fieldsIntegersFit fields = true →
    ∀ field ∈ strictFields fields, (∃ text, field.1 = .text text) ∧ field.2.IsPortable
  | [] => fun _ => List.forall_mem_nil _
  | (_, value) :: rest => fun short => by
      obtain ⟨here, later⟩ := Bool.and_eq_true_iff.1 short
      have valued := isPortable_strict value (Bool.and_eq_true_iff.1 here).2
      exact List.forall_mem_cons.2 ⟨⟨⟨_, rfl⟩, valued⟩, isPortable_strictFields rest later⟩

end

/-- JSON carries what it has, unless an integer has too many digits. -/
theorem isPortable_of_isJson {value : Value} (json : value.isJson = true)
    (short : value.integersFit = true) : value.IsPortable :=
  strict_of_isJson json ▸ isPortable_strict value short

end Value

end Workflow
