import Workflow.Template.Resolve
import Workflow.Value.Lemmas

/-!
# Plans of fields

A field is read in two stages.  Its texts and the names that are bound decide what is a literal, what
is a reference and what is filled in: that is the plan of the field.  Carrying out a plan only looks
up the paths that stand in the field and copies or prints what is there.  A text that is found in the
environment is therefore never read again, whatever it looks like.
-/

namespace Workflow.Template

/-- How a field is read. -/
inductive Plan where
  /-- The value stands for itself. -/
  | keep (value : Value)
  /-- The field stands for what is found at a path. -/
  | refer (path : String)
  /-- The field is a text, with what is found at the paths of its slots filled in. -/
  | fill (pieces : List Piece)
  | arr (items : List Plan)
  | obj (fields : List (Name × Plan))

/-! ## Making plans -/

/-- The plan of a text, given the names that are bound. -/
def planText (names : List Name.Identity) (text : String) : Plan :=
  match lone? text with
  | some path => .refer path
  | none =>
    if hasSlot text then .fill (pieces text)
    else if .text (Path.root text) ∈ names then .refer text
    else .keep (.str text)

mutual

/-- The plan of a value. -/
def plan (names : List Name.Identity) : Value → Plan
  | .str text => planText names text
  | .arr items => .arr (planItems names items)
  | .obj fields => .obj (planFields names fields)
  | value => .keep value

/-- The plans of the items of an array. -/
def planItems (names : List Name.Identity) : List Value → List Plan
  | [] => []
  | item :: rest => plan names item :: planItems names rest

/-- The plans of the fields of an object. -/
def planFields (names : List Name.Identity) : List (Name × Value) → List (Name × Plan)
  | [] => []
  | (name, value) :: rest => (name, plan names value) :: planFields names rest

end

/-! ## Carrying out plans -/

namespace Plan

mutual

/-- Carry out a plan in an environment. -/
def carryOut (environment : Object) : Plan → Except Fault Value
  | .keep value => .ok value
  | .refer path => .ok (Path.lookup environment path)
  | .fill pieces => (fillPieces environment pieces).map .str
  | .arr items => do
    let values ← carryOutItems environment items
    return .arr values
  | .obj fields => do
    let values ← carryOutFields environment fields
    return .obj values

/-- Carry out the plans of items in order. -/
def carryOutItems (environment : Object) : List Plan → Except Fault (List Value)
  | [] => .ok []
  | item :: rest => do
    let first ← carryOut environment item
    let others ← carryOutItems environment rest
    return first :: others

/-- Carry out the plans of fields in order. -/
def carryOutFields (environment : Object) :
    List (Name × Plan) → Except Fault (List (Name × Value))
  | [] => .ok []
  | (name, plan) :: rest => do
    let first ← carryOut environment plan
    let others ← carryOutFields environment rest
    return (name, first) :: others

end

mutual

/-- The paths that a plan looks up. -/
def paths : Plan → List String
  | .keep _ => []
  | .refer path => [path]
  | .fill pieces => pieces.flatMap fun
    | .char _ => []
    | .slot content => [slotPath content]
  | .arr items => pathsOfItems items
  | .obj fields => pathsOfFields fields

/-- The paths that the plans of items look up. -/
def pathsOfItems : List Plan → List String
  | [] => []
  | item :: rest => paths item ++ pathsOfItems rest

/-- The paths that the plans of fields look up. -/
def pathsOfFields : List (Name × Plan) → List String
  | [] => []
  | (_, plan) :: rest => paths plan ++ pathsOfFields rest

end

end Plan

/-! ## Resolving is carrying out a plan -/

variable (environment : Object)

theorem resolveText_eq_carryOut (text : String) :
    resolveText environment text =
      (planText (Object.identities environment) text).carryOut environment := by
  unfold resolveText planText
  cases lone? text with
  | some path => rfl
  | none =>
      by_cases slotted : hasSlot text = true
      · simp only [slotted, if_true, interpolate, Plan.carryOut]
      · have known := Object.contains_iff_mem_identities environment (.text (Path.root text))
        rw [Name.identity_text] at known
        by_cases bound : Name.Identity.text (Path.root text) ∈ Object.identities environment
        · simp [slotted, known.2 bound, bound, Plan.carryOut]
        · have unbound : Object.contains environment (.text (Path.root text)) = false := by
            simpa using mt known.1 bound
          simp [slotted, unbound, bound, Plan.carryOut]

mutual

/-- Resolving a value is carrying out its plan, which depends on the bound names only. -/
theorem resolve_eq_carryOut : ∀ value,
    resolve environment value = (plan (Object.identities environment) value).carryOut environment
  | .str text => resolveText_eq_carryOut environment text
  | .arr items => by rw [resolve, plan, Plan.carryOut, resolveItems_eq_carryOut items]
  | .obj fields => by rw [resolve, plan, Plan.carryOut, resolveFields_eq_carryOut fields]
  | .null | .bool _ | .int _ | .float _ => rfl

theorem resolveItems_eq_carryOut : ∀ items,
    resolveItems environment items =
      Plan.carryOutItems environment (planItems (Object.identities environment) items)
  | [] => rfl
  | item :: rest => by
    rw [resolveItems, planItems, Plan.carryOutItems, resolve_eq_carryOut item,
      resolveItems_eq_carryOut rest]

theorem resolveFields_eq_carryOut : ∀ fields,
    resolveFields environment fields =
      Plan.carryOutFields environment (planFields (Object.identities environment) fields)
  | [] => rfl
  | (name, value) :: rest => by
    rw [resolveFields, planFields, Plan.carryOutFields, resolve_eq_carryOut value,
      resolveFields_eq_carryOut rest]

end

/-! ## A plan reads its paths only -/

variable {environment} {other : Object}

theorem fillPieces_congr {pieces : List Piece}
    (agree : ∀ path ∈ (Plan.fill pieces).paths,
      Path.lookup environment path = Path.lookup other path) :
    fillPieces environment pieces = fillPieces other pieces := by
  induction pieces with
  | nil => rfl
  | cons piece rest inductionHypothesis =>
      simp only [Plan.paths, List.flatMap_cons, List.mem_append] at agree
      have later : fillPieces environment rest = fillPieces other rest := by
        apply inductionHypothesis
        intro path member
        exact agree path (.inr member)
      have here : piece.fill environment = piece.fill other := by
        cases piece with
        | char c => rfl
        | slot content =>
            rw [Piece.fill, Piece.fill, agree (slotPath content) (.inl (by simp))]
      rw [fillPieces, fillPieces, here, later]

mutual

/-- In environments that have the same values at its paths a plan comes to the same. -/
theorem Plan.carryOut_congr : ∀ plan : Plan,
    (∀ path ∈ plan.paths, Path.lookup environment path = Path.lookup other path) →
      plan.carryOut environment = plan.carryOut other
  | .keep _, _ => rfl
  | .refer path, agree => by
    rw [Plan.carryOut, Plan.carryOut, agree path (by simp [Plan.paths])]
  | .fill pieces, agree => by rw [Plan.carryOut, Plan.carryOut, fillPieces_congr agree]
  | .arr items, agree => by
    rw [Plan.carryOut, Plan.carryOut, Plan.carryOutItems_congr items agree]
  | .obj fields, agree => by
    rw [Plan.carryOut, Plan.carryOut, Plan.carryOutFields_congr fields agree]

theorem Plan.carryOutItems_congr : ∀ items : List Plan,
    (∀ path ∈ Plan.pathsOfItems items, Path.lookup environment path = Path.lookup other path) →
      Plan.carryOutItems environment items = Plan.carryOutItems other items
  | [], _ => rfl
  | item :: rest, agree => by
    rw [Plan.carryOutItems, Plan.carryOutItems,
      Plan.carryOut_congr item fun path member => agree path (List.mem_append_left _ member),
      Plan.carryOutItems_congr rest fun path member => agree path (List.mem_append_right _ member)]

theorem Plan.carryOutFields_congr : ∀ fields : List (Name × Plan),
    (∀ path ∈ Plan.pathsOfFields fields, Path.lookup environment path = Path.lookup other path) →
      Plan.carryOutFields environment fields = Plan.carryOutFields other fields
  | [], _ => rfl
  | (name, plan) :: rest, agree => by
    rw [Plan.carryOutFields, Plan.carryOutFields,
      Plan.carryOut_congr plan fun path member => agree path (List.mem_append_left _ member),
      Plan.carryOutFields_congr rest fun path member => agree path (List.mem_append_right _ member)]

end

/-- Environments with the same names that agree at the paths of a value's plan resolve it alike. -/
theorem resolve_congr (names_eq : Object.identities environment = Object.identities other)
    {value : Value}
    (agree : ∀ path ∈ (plan (Object.identities environment) value).paths,
      Path.lookup environment path = Path.lookup other path) :
    resolve environment value = resolve other value := by
  rw [resolve_eq_carryOut, resolve_eq_carryOut, ← names_eq]
  exact Plan.carryOut_congr _ agree

end Workflow.Template
