import Mathlib.Data.List.Induction
import Workflow.Proofs.Distinct
import Workflow.Proofs.Engine.DeclaredVariables

/-!
# Defaults

Input steps that run one after the other leave everything that the caller gave where it is, and add
behind it the declared variables that the caller left out, in order of first declaration and with
the default of that declaration.  Running one of them again adds nothing.
-/

namespace Workflow

namespace Handler

open Object (contains setDefault)

/-- What the variables of an input step declare, in order.  A value that is no array declares
nothing. -/
def declarationsIn : Value → List (String × Value)
  | .arr entries => entries.filterMap declaration?
  | _ => []

/-- Give declared names their defaults, one after the other, unless they are there. -/
def setDefaults (current : Object) (declared : List (String × Value)) : Object :=
  declared.foldl (fun current entry => setDefault current entry.1 entry.2) current

/-- The declared names that an input lacks, each once, in order of first declaration. -/
def lackedNames (input : Object) (declared : List (String × Value)) : List String :=
  (declared.map (·.1)).eraseDups.filter fun name => !contains input name

/-- What declarations add to an input: the names that it lacks, each with the default of its first
declaration. -/
def additions (input : Object) (declared : List (String × Value)) : Object :=
  (lackedNames input declared).map fun name => (.text name, (declared.lookup name).getD .null)

theorem foldl_fillIn (entries : List Value) (current : Object) :
    entries.foldl fillIn current = setDefaults current (entries.filterMap declaration?) := by
  induction entries generalizing current with
  | nil => rfl
  | cons entry rest ih =>
      rw [List.foldl_cons, ih, fillIn_eq, List.filterMap_cons]
      cases declaration? entry <;> rfl

theorem withDefaults_eq_setDefaults (input : Object) (declarations : Value) :
    withDefaults input declarations = setDefaults input (declarationsIn declarations) := by
  cases declarations with
  | arr entries => exact foldl_fillIn entries input
  | _ => rfl

/-! ## All declarations -/

variable {input : Object} {declared : List (String × Value)} {name : String}

theorem mem_lackedNames_iff :
    name ∈ lackedNames input declared ↔
      name ∈ declared.map (·.1) ∧ contains input name = false := by
  rw [lackedNames, List.mem_filter, List.mem_eraseDups, Bool.not_eq_true']

/-- With the additions an input has all names that are declared. -/
theorem contains_append_additions :
    contains (input ++ additions input declared) name = true ↔
      contains input name = true ∨ name ∈ declared.map (·.1) := by
  have added : (Name.text name).identity ∈ Object.identities (additions input declared) ↔
      name ∈ lackedNames input declared := by
    simp [Object.identities, additions]
  have whole : Object.identities (input ++ additions input declared) =
      Object.identities input ++ Object.identities (additions input declared) :=
    List.map_append
  rw [Object.contains_iff_mem_identities, whole, List.mem_append,
    ← Object.contains_iff_mem_identities, added, mem_lackedNames_iff]
  cases contains input name <;> simp

/-- The default of a name that has been declared before is not that of a later declaration. -/
theorem lookup_concat_of_mem (known : name ∈ declared.map (·.1)) (later : String × Value) :
    (declared ++ [later]).lookup name = declared.lookup name := by
  rw [List.lookup_append]
  cases found : declared.lookup name with
  | some value => rfl
  | none =>
      obtain ⟨entry, member, rfl⟩ := List.mem_map.1 known
      have apart := List.lookup_eq_none_iff.1 found entry member
      simp at apart

theorem map_lookup_concat {names : List String} (known : ∀ name ∈ names, name ∈ declared.map (·.1))
    (later : String × Value) :
    (names.map fun name => (Name.text name, ((declared ++ [later]).lookup name).getD .null)) =
      names.map fun name => (Name.text name, (declared.lookup name).getD .null) := by
  refine List.map_congr_left fun name member => ?_
  rw [lookup_concat_of_mem (known name member)]

/-- A declaration of a name that is there adds nothing. -/
theorem additions_concat_of_contains
    (known : contains (input ++ additions input declared) name = true) (value : Value) :
    additions input (declared ++ [(name, value)]) = additions input declared := by
  have same : lackedNames input (declared ++ [(name, value)]) = lackedNames input declared := by
    rw [lackedNames, List.map_append]
    by_cases before : name ∈ declared.map (·.1)
    · rw [List.map_singleton, eraseDups_concat_of_mem before]
      rfl
    · have given : contains input name = true :=
        (contains_append_additions.1 known).resolve_right before
      rw [List.map_singleton, eraseDups_concat_of_not_mem before, List.filter_append]
      simp [given, lackedNames]
  rw [additions, same]
  exact map_lookup_concat (fun name member => (mem_lackedNames_iff.1 member).1) _

/-- A declaration of a name that is lacking adds it at the end. -/
theorem additions_concat_of_not_contains
    (new : ¬ contains (input ++ additions input declared) name = true) (value : Value) :
    additions input (declared ++ [(name, value)]) =
      additions input declared ++ [(.text name, value)] := by
  rw [contains_append_additions, not_or] at new
  obtain ⟨lacks, first⟩ := new
  have more : lackedNames input (declared ++ [(name, value)]) =
      lackedNames input declared ++ [name] := by
    rw [lackedNames, List.map_append, List.map_singleton, eraseDups_concat_of_not_mem first,
      List.filter_append]
    simp [lacks, lackedNames]
  have found : (declared ++ [(name, value)]).lookup name = some value := by
    have none_before : declared.lookup name = none := by
      rw [List.lookup_eq_none_iff]
      intro entry member
      simpa using fun same : name = entry.1 => first (same ▸ List.mem_map_of_mem member)
    rw [List.lookup_append, none_before]
    simp
  rw [additions, more, List.map_append, List.map_singleton, found,
    map_lookup_concat fun name member => (mem_lackedNames_iff.1 member).1]
  rfl

/-- Defaults are added behind the input. -/
theorem setDefaults_eq_append (input : Object) (declared : List (String × Value)) :
    setDefaults input declared = input ++ additions input declared := by
  induction declared using List.reverseRecOn with
  | nil => exact (List.append_nil input).symm
  | append_singleton front last ih =>
      obtain ⟨name, value⟩ := last
      have lastSet : setDefaults input (front ++ [(name, value)]) =
          setDefault (setDefaults input front) name value := List.foldl_append
      rw [lastSet, ih]
      by_cases known : contains (input ++ additions input front) name = true
      · rw [Object.setDefault_of_contains known, additions_concat_of_contains known]
      · rw [setDefault, if_neg known, additions_concat_of_not_contains known, List.append_assoc]

/-- Defaults of names that are there do nothing. -/
theorem setDefaults_of_contains (present : ∀ entry ∈ declared, contains input entry.1 = true) :
    setDefaults input declared = input := by
  induction declared with
  | nil => rfl
  | cons entry rest ih =>
      obtain ⟨here, later⟩ := List.forall_mem_cons.1 present
      have firstSet : setDefaults input (entry :: rest) =
          setDefaults (setDefault input entry.1 entry.2) rest := rfl
      rw [firstSet, Object.setDefault_of_contains here, ih later]

end Handler

namespace Execution

open Handler (additions declarationsIn setDefaults withDefaults)

/-- A step collects input and binds it. -/
def Collects (step : Step) : Prop := step.kind = Kind.input.name ∧ step.output = "input"

/-- What the variables of steps declare, in order. -/
def declaredBy (steps : List Step) : List (String × Value) :=
  steps.flatMap fun step => declarationsIn (Value.field step.fields "variables")

variable {step : Step} {steps : List Step} {environment input : Object}

theorem HoldsInput.get?_eq (holds : HoldsInput environment input) :
    Object.get? environment "input" = some (.obj input) := by
  have bound := holds.field_eq
  unfold Value.field at bound
  cases present : Object.get? environment "input" with
  | none =>
      rw [present] at bound
      cases bound
  | some value =>
      rw [present] at bound
      exact congrArg some bound

/-- An input step gives its variables their defaults and does nothing else. -/
theorem HoldsInput.advance_eq (holds : HoldsInput environment input) (collects : Collects step)
    (request : Request) (world : World) :
    advance .standard request (environment, world) step =
      .ok (Object.set environment "input" (.obj
        (setDefaults input (declarationsIn (Value.field step.fields "variables")))), world) := by
  have reply_eq := reply_standard collects.1.symm environment request world
  rw [Kind.handler, Handler.collectInput_eq holds.field_eq holds.single,
    Handler.withDefaults_eq_setDefaults] at reply_eq
  rw [advance_of_ok (congrArg Reply.result reply_eq), reply_eq, collects.2]

/-- Input steps give the variables of all of them their defaults, one after the other. -/
theorem HoldsInput.foldlM_advance_eq (holds : HoldsInput environment input)
    (collect : ∀ step ∈ steps, Collects step) (request : Request) (world : World) :
    let after := Object.set environment "input" (.obj (setDefaults input (declaredBy steps)))
    steps.foldlM (advance .standard request) (environment, world) = .ok (after, world) ∧
      HoldsInput after (setDefaults input (declaredBy steps)) := by
  induction steps generalizing environment input with
  | nil =>
      have kept : Object.set environment "input" (.obj (setDefaults input (declaredBy []))) =
          environment := Object.set_eq_self holds.get?_eq
      rw [kept]
      exact ⟨rfl, holds⟩
  | cons step rest ih =>
      obtain ⟨collects, collectRest⟩ := List.forall_mem_cons.1 collect
      have advanced := holds.advance_eq collects request world
      have heldNext := holds.of_input_step collects.1 collects.2 advanced
      rw [Handler.withDefaults_eq_setDefaults] at heldNext
      have present : (Name.text "input").identity ∈ Object.identities environment := by
        rw [← Object.contains_iff_mem_identities, Object.contains, holds.get?_eq]
        rfl
      have together : setDefaults (setDefaults input
          (declarationsIn (Value.field step.fields "variables"))) (declaredBy rest) =
            setDefaults input (declaredBy (step :: rest)) := List.foldl_append.symm
      obtain ⟨folded, held⟩ := ih heldNext collectRest
      rw [Object.set_set present rfl, together] at folded held
      refine ⟨?_, held⟩
      rw [List.foldlM_cons, advanced, Outcome.ok_bind, folded]

/-- A step that declares only names that are there changes nothing. -/
theorem HoldsInput.advance_of_complete (holds : HoldsInput environment input)
    (collects : Collects step)
    (complete : ∀ entry ∈ declarationsIn (Value.field step.fields "variables"),
      Object.contains input entry.1 = true) (request : Request) (world : World) :
    advance .standard request (environment, world) step = .ok (environment, world) := by
  rw [holds.advance_eq collects request world, Handler.setDefaults_of_contains complete,
    Object.set_eq_self holds.get?_eq]

/-- Filling in defaults never overwrites.  Input steps that run one after the other, each on the
input that the one before it returned, finish and keep the input as a whole where it is.  Behind it
they add the declared names that it lacks, each once, in order of first declaration and with the
default of that declaration.  Running any of the steps once more changes nothing. -/
theorem inputs_in_turn (environment input : Object) (holds : HoldsInput environment input)
    (steps : List Step) (collect : ∀ step ∈ steps, Collects step) (request : Request)
    (world : World) :
    let after := Object.set environment "input"
      (.obj (input ++ additions input (declaredBy steps)))
    steps.foldlM (advance .standard request) (environment, world) = .ok (after, world) ∧
    ∀ step ∈ steps, advance .standard request (after, world) step = .ok (after, world) := by
  intro after
  obtain ⟨folded, held⟩ := holds.foldlM_advance_eq collect request world
  rw [Handler.setDefaults_eq_append] at folded held
  refine ⟨folded, ?_⟩
  intro step member
  apply held.advance_of_complete (collect step member)
  intro entry declared
  apply Handler.contains_append_additions.2 (.inr _)
  exact List.mem_map_of_mem (List.mem_flatMap.2 ⟨step, member, declared⟩)

/-- Three input steps, with a name that is there already, a name that is declared twice, one of them
with blanks around it, an empty name and variables that are no list. -/
theorem inputs_in_turn_blanks :
    let collect (declarations : Value) : Step :=
      { id := "collect", kind := "input", fields := [("variables", declarations)],
        output := "input" }
    let declare (name : String) (default : Value) : Value :=
      .obj [("name", .str name), ("default", default)]
    let steps : List Step :=
      [collect (.arr [declare "note" (.str "none"), declare " role " (.str "guest")]),
        collect (.str "role"),
        collect (.arr [.obj [("name", .str "age")], declare "role" (.str "admin"), .int 5,
          declare " " (.bool true)])]
    let input : Object := [("note", .null)]
    let after : Object :=
      [("input", .obj [("note", .null), ("role", .str "guest"), ("age", .null)])]
    HoldsInput [("input", .obj input)] input ∧ (∀ step ∈ steps, Collects step) ∧
      steps.foldlM (advance .standard { executionId := "first" }) ([("input", .obj input)], {}) =
        .ok (after, {}) ∧
      ∀ step ∈ steps, advance .standard { executionId := "first" } (after, {}) step =
        .ok (after, {}) := by
  intro collect declare steps input after
  have holds : HoldsInput [("input", .obj input)] input := ⟨rfl, by decide⟩
  have collects : ∀ step ∈ steps, Collects step := by
    simp [steps, collect, Collects, Kind.name]
  have added : Object.set [("input", .obj input)] "input"
      (.obj (input ++ additions input (declaredBy steps))) = after := by
    with_unfolding_all rfl
  have completes := inputs_in_turn _ input holds steps collects { executionId := "first" } {}
  rw [added] at completes
  exact ⟨holds, collects, completes⟩

end Execution

end Workflow
