import Workflow.Proofs.Engine.Bindings
import Workflow.Proofs.Graph.CompiledSteps
import Workflow.Proofs.Template.Variable

/-!
# Declared input variables

Every input step fills in the variables that its node declares, so once all of them have run, the
object bound to `input` has for every declared name what the caller gave, or else the default of the
declaration that comes first in the order of the steps.  Where the name is a path of its own, its
placeholder stands for that value.
-/

namespace Workflow

open Template (canonical)

/-! ## Declarations -/

namespace Node

/-- The entries of an input node's variables. -/
def declarations (node : Node) : List Value :=
  match node.kind, Value.field node.fields "variables" with
  | .input, .arr declarations => declarations
  | _, _ => []

theorem declaredNames_eq (node : Node) :
    node.declaredNames = node.declarations.filterMap declaredName? := by
  unfold declaredNames declarations
  cases node.kind with
  | input => cases Value.field node.fields "variables" <;> rfl
  | _ => rfl

theorem declarations_of_other {node : Node} (other : node.kind ≠ .input) :
    node.declarations = [] := by
  unfold declarations
  split
  · rename_i kind_eq _
    exact absurd kind_eq other
  · rfl

/-- A declared name is not empty, and the name in its declaration strips to it. -/
theorem declaredName?_eq_some_iff {declaration : Value} {name : String} :
    declaredName? declaration = some name ↔ name ≠ "" ∧
      ∃ fields word, declaration = .obj fields ∧ Value.field fields "name" = .str word ∧
        Text.strip word = name := by
  constructor
  · intro declares
    unfold declaredName? at declares
    split at declares
    · rename_i fields
      split at declares
      · rename_i word word_eq
        obtain ⟨given, strip_eq⟩ := Option.ite_none_left_eq_some.1 declares
        obtain rfl := Option.some.inj strip_eq
        exact ⟨given, fields, word, rfl, word_eq, rfl⟩
      · cases declares
    · cases declares
  · rintro ⟨given, fields, word, rfl, word_eq, rfl⟩
    simp only [declaredName?, word_eq, if_neg given]

variable {declared : List String} {name : String}

theorem declaredDefault_canonical (declared : List String) (declaration : Value) :
    declaredDefault (canonical declared declaration) =
      canonical declared (declaredDefault declaration) := by
  cases declaration with
  | obj fields => exact Template.field_canonicalFields declared fields "default"
  | _ => rfl

/-- A declaration declares the same name when its templates are made canonical. -/
theorem declaredName?_canonical (known : name ∈ declared)
    (plain : ∀ c ∈ name.toList, Template.isBrace c = false) (pointless : '.' ∉ name.toList)
    (declaration : Value) :
    declaredName? (canonical declared declaration) = some name ↔
      declaredName? declaration = some name := by
  cases declaration with
  | obj fields =>
      simp only [declaredName?_eq_some_iff, canonical, Value.obj.injEq, exists_and_left,
        exists_eq_left', Template.field_canonicalFields]
      cases Value.field fields "name" with
      | str word =>
          simp only [canonical, Value.str.injEq, exists_eq_left',
            Template.strip_canonicalText_eq_iff known pointless plain]
      | _ => simp [canonical]
  | _ => exact Iff.rfl

/-- When the templates of declarations are made canonical, the first one of a name stays the first. -/
theorem find?_map_canonical (known : name ∈ declared)
    (plain : ∀ c ∈ name.toList, Template.isBrace c = false) (pointless : '.' ∉ name.toList)
    (declarations : List Value) :
    ((declarations.map (canonical declared)).find? (declaredName? · = some name)).map
        declaredDefault =
      (declarations.find? (declaredName? · = some name)).map fun declaration =>
        canonical declared (declaredDefault declaration) := by
  induction declarations with
  | nil => rfl
  | cons declaration rest ih =>
      have same := declaredName?_canonical known plain pointless declaration
      by_cases declares : declaredName? declaration = some name
      · rw [List.map_cons, List.find?_cons_of_pos (by simpa using same.2 declares),
          List.find?_cons_of_pos (by simpa using declares), Option.map_some, Option.map_some,
          declaredDefault_canonical]
      · rw [List.map_cons, List.find?_cons_of_neg (by simpa using mt same.1 declares),
          List.find?_cons_of_neg (by simpa using declares), ih]

end Node

namespace Graph

variable {declared : List String} {name : String}

/-- The compiled default of the first declaration of a name among those of some nodes. -/
def firstDefault? (declared : List String) (nodes : List Node) (name : String) : Option Value :=
  ((nodes.flatMap Node.declarations).find? (Node.declaredName? · = some name)).map
    fun declaration => canonical declared (Node.declaredDefault declaration)

theorem firstDefault?_append (front back : List Node) :
    firstDefault? declared (front ++ back) name =
      (firstDefault? declared front name).or (firstDefault? declared back name) := by
  simp only [firstDefault?, List.flatMap_append, List.find?_append, Option.map_or]

theorem firstDefault?_of_others {nodes : List Node} (others : ∀ node ∈ nodes, node.kind ≠ .input) :
    firstDefault? declared nodes name = none := by
  have none_declared : nodes.flatMap Node.declarations = [] :=
    List.flatMap_eq_nil_iff.2 fun node member => Node.declarations_of_other (others node member)
  rw [firstDefault?, none_declared]
  rfl

theorem mem_foldl_addName {names known : List String} :
    name ∈ names.foldl addName known ↔ name ∈ known ∨ name ∈ names := by
  induction names generalizing known with
  | nil => simp
  | cons first rest ih =>
      have mem_addName : name ∈ addName known first ↔ name ∈ known ∨ name = first := by
        unfold addName
        split
        · rename_i listed
          have listed : first ∈ known := by simpa using listed
          constructor
          · exact .inl
          · rintro (member | rfl)
            · exact member
            · exact listed
        · simp
      rw [List.foldl_cons, ih, mem_addName, List.mem_cons, or_assoc]

/-- A name is among the declared variables exactly if some node declares it. -/
theorem mem_declaredVariables_iff {graph : Graph} :
    name ∈ graph.declaredVariables ↔ ∃ node ∈ graph.nodes, ∃ declaration ∈ node.declarations,
      Node.declaredName? declaration = some name := by
  rw [declaredVariables, mem_foldl_addName]
  simp [Node.declaredNames_eq]

/-- The placeholder of a declared variable without braces has its name as the path. -/
theorem lone?_of_declared {graph : Graph} (known : name ∈ graph.declaredVariables)
    (plain : ∀ c ∈ name.toList, Template.isBrace c = false) :
    name ≠ "" ∧ Template.lone? (Template.placeholder name) = some name := by
  obtain ⟨-, -, declaration, -, declares⟩ := mem_declaredVariables_iff.1 known
  obtain ⟨given, -, word, -, -, strip_eq⟩ := Node.declaredName?_eq_some_iff.1 declares
  have trimmed : Text.IsTrimmed Text.isBlank name.toList := by
    rw [← strip_eq, Template.toList_strip]
    exact Text.isTrimmed_trimChars Text.isBlank word.toList
  exact ⟨given, Template.lone?_placeholder given trimmed plain⟩

/-- Every declared variable has a first declaration in the order of release. -/
theorem exists_firstDefault? {graph : Graph} (valid : graph.Valid) {order : List Node}
    (ordered : graph.releaseOrder = .ok order) (known : name ∈ graph.declaredVariables) :
    ∃ fallback, firstDefault? graph.declaredVariables order name = some fallback := by
  obtain ⟨node, member, declaration, listed, declares⟩ := mem_declaredVariables_iff.1 known
  have inOrder := (releaseOrder_isTopologicalOrder valid ordered).perm.mem_iff.2 member
  have found : ((order.flatMap Node.declarations).find?
      (Node.declaredName? · = some name)).isSome = true :=
    List.find?_isSome.2
      ⟨declaration, List.mem_flatMap.2 ⟨node, inOrder, listed⟩, by simpa using declares⟩
  obtain ⟨first, first_eq⟩ := Option.isSome_iff_exists.1 found
  exact ⟨_, by rw [firstDefault?, first_eq, Option.map_some]⟩

/-- The nodes of a compiled graph, in the order of release, become its steps one by one. -/
theorem forall₂_of_compile {graph : Graph} {steps : List Step} {order : List Node}
    (compiled : graph.compile = .ok steps) (ordered : graph.releaseOrder = .ok order) :
    List.Forall₂ (fun node step => ∃ position,
      node.toStep graph.declaredVariables position = .ok step) order steps := by
  obtain ⟨-, order', ordered', built⟩ := compile_eq_ok_iff.1 compiled
  obtain rfl : order' = order := Except.ok.inj (ordered'.symm.trans ordered)
  obtain ⟨length_eq, -⟩ := stepsFrom_eq_ok_iff.1 built
  rw [List.forall₂_iff_get]
  refine ⟨length_eq.symm, ?_⟩
  intro position inOrder inSteps
  obtain ⟨step, stepAt, made⟩ :=
    toStep_of_compile compiled ordered (List.getElem?_eq_getElem inOrder)
  obtain rfl : steps[position] = step := by
    simpa [List.getElem?_eq_getElem inSteps] using stepAt
  exact ⟨_, made⟩

end Graph

/-! ## Filling in -/

namespace Handler

/-- Filling in a declaration adds the name that it declares with its default, unless it is there. -/
theorem get?_fillIn (current : Object) (declaration : Value) (name : String) :
    Object.get? (fillIn current declaration) name =
      (Object.get? current name).or
        (if Node.declaredName? declaration = some name then some (Node.declaredDefault declaration)
          else none) := by
  rw [fillIn_eq, declaration?]
  cases Node.declaredName? declaration with
  | none => simp
  | some declared =>
      simp only [Option.map_some, Object.get?_setDefault]
      by_cases same : declared = name
      · subst same
        cases Object.get? current declared <;> simp
      · simp [same]

/-- Of several declarations of a name, the first is filled in. -/
theorem get?_foldl_fillIn (declarations : List Value) (current : Object) (name : String) :
    Object.get? (declarations.foldl fillIn current) name =
      (Object.get? current name).or
        ((declarations.find? (Node.declaredName? · = some name)).map Node.declaredDefault) := by
  induction declarations generalizing current with
  | nil => simp
  | cons declaration rest ih =>
      rw [List.foldl_cons, ih, get?_fillIn, Option.or_assoc, List.find?_cons]
      split <;> simp_all

end Handler

namespace Execution

variable {request : Request} {world there : World} {environment after input : Object}
  {declared : List String} {name : String}

/-- What a step does to the variable of a declared name: an input step gives it the default of its
first declaration, unless it is there, and any other step leaves it as it is. -/
theorem HoldsInput.fills_of_advance (known : name ∈ declared)
    (plain : ∀ c ∈ name.toList, Template.isBrace c = false) (pointless : '.' ∉ name.toList)
    {node : Node} {step : Step} {position : Nat} (made : node.toStep declared position = .ok step)
    (holds : HoldsInput environment input)
    (inputs : step.output = "input" → step.kind = Kind.input.name)
    (advanced : advance .standard request (environment, world) step = .ok (after, there)) :
    ∃ more, HoldsInput after more ∧ Object.get? more name =
      (Object.get? input name).or (Graph.firstDefault? declared [node] name) := by
  by_cases kind_eq : node.kind = .input
  · have step_kind : step.kind = Kind.input.name := by rw [Node.kind_of_toStep made, kind_eq]
    refine ⟨_, holds.of_input_step step_kind (Node.output_of_toStep made kind_eq) advanced, ?_⟩
    rw [Node.field_of_toStep made (by decide), Graph.firstDefault?, List.flatMap_singleton,
      Node.declarations, kind_eq]
    cases Value.field node.fields "variables" with
    | arr declarations =>
        dsimp only
        rw [canonical, Handler.withDefaults, Template.canonicalItems_eq_map,
          Handler.get?_foldl_fillIn, Node.find?_map_canonical known plain pointless]
    | _ => simp [canonical, Handler.withDefaults]
  · refine ⟨input, holds.of_other_step ?_ advanced, ?_⟩
    · intro binds
      have inputKind := inputs binds
      rw [Node.kind_of_toStep made] at inputKind
      exact kind_eq (Kind.name_injective inputKind)
    · rw [Graph.firstDefault?_of_others (by simpa using kind_eq), Option.or_none]

/-- Steps that nodes become, run one after the other, give the variable of a declared name the
compiled default of its first declaration among them, unless it is there. -/
theorem HoldsInput.fills_of_foldlM (known : name ∈ declared)
    (plain : ∀ c ∈ name.toList, Template.isBrace c = false) (pointless : '.' ∉ name.toList)
    {nodes : List Node} {steps : List Step}
    (made : List.Forall₂ (fun node step => ∃ position, node.toStep declared position = .ok step)
      nodes steps)
    (holds : HoldsInput environment input) (inputs : Step.OnlyInputsBind steps "input")
    (folded : steps.foldlM (advance .standard request) (environment, world) = .ok (after, there)) :
    ∃ more, HoldsInput after more ∧ Object.get? more name =
      (Object.get? input name).or (Graph.firstDefault? declared nodes name) := by
  induction made generalizing environment world input with
  | nil =>
      obtain ⟨rfl, rfl⟩ := Prod.mk.inj (Except.ok.inj folded)
      exact ⟨input, holds, by simp [Graph.firstDefault?]⟩
  | @cons node step nodes steps first made ih =>
      obtain ⟨position, first⟩ := first
      rw [List.foldlM_cons] at folded
      obtain ⟨⟨here, hereWorld⟩, advanced, folded⟩ := Outcome.bind_eq_ok_iff.1 folded
      obtain ⟨between, held, between_eq⟩ := holds.fills_of_advance known plain pointless first
        (inputs step List.mem_cons_self) advanced
      obtain ⟨more, heldAfter, more_eq⟩ :=
        ih held (fun later member => inputs later (List.mem_cons_of_mem _ member)) folded
      refine ⟨more, heldAfter, ?_⟩
      rw [more_eq, between_eq, Option.or_assoc, ← Graph.firstDefault?_append, List.singleton_append]

/-! ## What placeholders read -/

/-- Once some steps at the beginning of a compiled graph have run, all input steps among them, the
placeholder of a declared name stands for what the caller gave, or else for the compiled default of
the first declaration. -/
theorem resolve_placeholder_of_foldlM {graph : Graph} {steps : List Step}
    (compiled : graph.compile = .ok steps) (known : name ∈ graph.declaredVariables)
    (plain : ∀ c ∈ name.toList, Template.isBrace c = false) (pointless : '.' ∉ name.toList)
    (inputs : Step.OnlyInputsBind steps "input") (single : (Object.identities input).Nodup)
    {order : List Node} (ordered : graph.releaseOrder = .ok order) {fallback : Value}
    (default_eq : Graph.firstDefault? graph.declaredVariables order name = some fallback) {j : Nat}
    (done : ∀ (k : Nat) (step : Step), steps[k]? = some step → step.kind = Kind.input.name → k < j)
    (folded : (steps.take j).foldlM (advance .standard request) ([("input", .obj input)], world) =
      .ok (after, there)) :
    Template.resolve after (canonical graph.declaredVariables (.str (Template.placeholder name))) =
      .ok ((Object.get? input name).getD fallback) := by
  have made := Graph.forall₂_of_compile compiled ordered
  have begun : HoldsInput [("input", .obj input)] input := ⟨rfl, single⟩
  obtain ⟨more, holds, more_eq⟩ := begun.fills_of_foldlM known plain pointless
    (List.forall₂_take j made) (fun step member => inputs step (List.mem_of_mem_take member)) folded
  -- No node after those is an input node, so the first declaration is among theirs.
  have others : ∀ node ∈ order.drop j, node.kind ≠ .input := by
    intro node member kind_eq
    obtain ⟨i, nodeAt⟩ := List.mem_iff_getElem?.1 member
    rw [List.getElem?_drop] at nodeAt
    obtain ⟨step, stepAt, -, step_kind⟩ := Graph.step_of_compile compiled ordered nodeAt
    have before := done _ step stepAt (by rw [step_kind, kind_eq])
    omega
  have first_eq :
      Graph.firstDefault? graph.declaredVariables (order.take j) name = some fallback := by
    rw [← default_eq, ← List.take_append_drop j order, Graph.firstDefault?_append,
      Graph.firstDefault?_of_others others, Option.or_none, List.take_append_drop]
  obtain ⟨given, lone⟩ := Graph.lone?_of_declared known plain
  rw [Template.resolve_canonical_of_declared lone given known pointless holds.field_eq, Value.field,
    more_eq, first_eq]
  cases Object.get? input name <;> rfl

/-- Every declared input variable that is named without braces and points can be referenced.  In a
run of a compiled graph in which only input steps bind `input`, the compiled placeholder of the name
stands, once all input steps have run, for what the caller gave under the name, and otherwise for
the compiled default of its first declaration in the order of the steps. -/
theorem declared_variable_resolves (graph : Graph) (steps : List Step)
    (compiled : graph.compile = .ok steps) (name : String) (known : name ∈ graph.declaredVariables)
    (plain : ∀ c ∈ name.toList, Template.isBrace c = false) (pointless : '.' ∉ name.toList)
    (inputs : Step.OnlyInputsBind steps "input") (request : Request) (input : Object)
    (single : (Object.identities input).Nodup) (scene last : Scene) (progress : Progress)
    (stop : Option Stop)
    (ran : runFrom .standard request 0 steps (start input) scene = ((progress, stop), last)) :
    ∃ order fallback, graph.releaseOrder = .ok order ∧
      Graph.firstDefault? graph.declaredVariables order name = some fallback ∧
      (∀ (j : Nat) (entry : Entry), progress.entries[j]? = some entry →
        (∀ (k : Nat) (step : Step), steps[k]? = some step → step.kind = Kind.input.name → k < j) →
        Template.resolve entry.environment
          (canonical graph.declaredVariables (.str (Template.placeholder name))) =
            .ok ((Object.get? input name).getD fallback)) ∧
      (stop = none →
        Template.resolve progress.environment
          (canonical graph.declaredVariables (.str (Template.placeholder name))) =
            .ok ((Object.get? input name).getD fallback)) := by
  obtain ⟨valid, order, ordered, -⟩ := Graph.compile_eq_ok_iff.1 compiled
  obtain ⟨fallback, default_eq⟩ := Graph.exists_firstDefault? valid ordered known
  have trail := trail_of_runFrom Registry.standard_leavesInput ran
  refine ⟨order, fallback, ordered, default_eq, ?_, ?_⟩
  · intro j entry entryAt done
    obtain ⟨-, here, -, -, folded, -⟩ := trail.entry_at entryAt
    exact resolve_placeholder_of_foldlM compiled known plain pointless inputs single ordered
      default_eq done folded
  · rintro rfl
    obtain ⟨folded, -⟩ := trail.of_not_stopped
    rw [← List.take_length (l := steps)] at folded
    refine resolve_placeholder_of_foldlM compiled known plain pointless inputs single ordered
      default_eq ?_ folded
    intro k step stepAt _
    exact (List.getElem?_eq_some_iff.1 stepAt).1

/-- Of two input nodes that declare a role, the one that runs first gives its default, which its own
placeholder became when the graph was compiled. -/
theorem declared_variable_resolves_first :
    let second : Node :=
      { id := "second", kind := .input
        fields := [("variables", .arr [.obj [("name", .str " role "), ("default", .str "guest")]])] }
    let first : Node :=
      { id := "first", kind := .input
        fields := [("variables", .arr [.obj [("name", .str "email")],
          .obj [("name", .str "role"), ("default", .str "\x7b\x7bemail\x7d\x7d")]])] }
    let store : Node := { id := "store", kind := .insert }
    let graph : Graph :=
      { nodes := [second, first, store]
        edges := [⟨"1", "first", "second"⟩, ⟨"2", "second", "store"⟩] }
    let given : Object := [("email", .str "ada@example.com")]
    ∃ steps progress stop last entry, graph.compile = .ok steps ∧
      runFrom .standard { executionId := "first" } 0 steps (start given) {} =
        ((progress, stop), last) ∧
      progress.entries[2]? = some entry ∧
      Template.resolve entry.environment
        (canonical graph.declaredVariables (.str (Template.placeholder "role"))) =
          .ok (.str "input.email") := by
  obtain ⟨steps, progress, stop, last, entry, steps_eq, ran, entryAt⟩ :
      ∃ steps progress stop last entry, steps =
          [⟨"step1", "input", [("variables", .arr [.obj [("name", .str "email")],
              .obj [("name", .str "role"), ("default", .str "input.email")]])], "input"⟩,
            ⟨"step2", "input",
              [("variables", .arr [.obj [("name", .str " role "), ("default", .str "guest")]])],
              "input"⟩,
            ⟨"step3", "dbInsert", [], "createdRecord"⟩] ∧
        runFrom .standard { executionId := "first" } 0 steps
          (start [("email", .str "ada@example.com")]) {} = ((progress, stop), last) ∧
        progress.entries[2]? = some entry :=
    ⟨_, _, _, _, _, rfl, rfl, rfl⟩
  intro second first store graph given
  have compiled : graph.compile = .ok steps := by
    rw [steps_eq]
    with_unfolding_all rfl
  obtain ⟨order, fallback, ordered, default_eq, reads, -⟩ :=
    declared_variable_resolves graph steps compiled "role"
      (Graph.mem_declaredVariables_iff.2 ⟨second, by simp [graph], _, List.mem_singleton.2 rfl,
        by decide +kernel⟩)
      (by simp [Template.isBrace]) (by simp) (by rw [steps_eq]; decide)
      { executionId := "first" } given (by decide) {} last progress stop ran
  obtain rfl : [first, second, store] = order := by
    have released : graph.releaseOrder = .ok [first, second, store] := by with_unfolding_all rfl
    exact Except.ok.inj (released.symm.trans ordered)
  obtain rfl : .str "input.email" = fallback := by
    have first_eq : Graph.firstDefault? graph.declaredVariables [first, second, store] "role" =
        some (.str "input.email") := by with_unfolding_all rfl
    exact Option.some.inj (first_eq.symm.trans default_eq)
  have done : ∀ (k : Nat) (step : Step), steps[k]? = some step →
      step.kind = Kind.input.name → k < 2 := by
    rw [steps_eq]
    rintro (_ | _ | _ | k) step stepAt kind_eq
    · decide
    · decide
    · obtain rfl := Option.some.inj stepAt
      exact absurd kind_eq (by decide)
    · cases stepAt
  have resolved := reads 2 entry entryAt done
  exact ⟨steps, progress, stop, last, entry, compiled, ran, entryAt, resolved⟩

/-- A name with a point is no path of its own: its placeholder leads from the first part of the name,
which no one declares, and stands for itself. -/
theorem pointed_variable_not_resolved :
    let collect : Node :=
      { id := "collect", kind := .input
        fields := [("variables", .arr [.obj [("name", .str "user.name"), ("default", .str "Ada")]])] }
    let graph : Graph := { nodes := [collect] }
    ∃ steps progress last, graph.compile = .ok steps ∧ Step.OnlyInputsBind steps "input" ∧
      "user.name" ∈ graph.declaredVariables ∧
      (∀ c ∈ "user.name".toList, Template.isBrace c = false) ∧
      runFrom .standard { executionId := "first" } 0 steps (start []) {} =
        ((progress, none), last) ∧
      graph.releaseOrder = .ok [collect] ∧
      Graph.firstDefault? graph.declaredVariables [collect] "user.name" = some (.str "Ada") ∧
      Template.resolve progress.environment
        (canonical graph.declaredVariables (.str (Template.placeholder "user.name"))) =
          .ok (.str "user.name") := by
  obtain ⟨steps, progress, last, steps_eq, ran, environment_eq⟩ :
      ∃ (steps : List Step) (progress : Progress) (last : Scene), steps =
          [⟨"step1", "input",
            [("variables", .arr [.obj [("name", .str "user.name"), ("default", .str "Ada")]])],
            "input"⟩] ∧
        runFrom .standard { executionId := "first" } 0 steps (start []) {} =
          ((progress, none), last) ∧
        progress.environment = (start [("user.name", .str "Ada")]).environment :=
    ⟨_, _, _, rfl, rfl, rfl⟩
  intro collect graph
  have declared_eq : graph.declaredVariables = ["user.name"] := by with_unfolding_all rfl
  refine ⟨steps, progress, last, ?_, ?_, ?_, by simp [Template.isBrace], ran, ?_, ?_, ?_⟩
  · rw [steps_eq]
    with_unfolding_all rfl
  · rw [steps_eq]
    decide
  · rw [declared_eq]
    exact List.mem_singleton.2 rfl
  · with_unfolding_all rfl
  · with_unfolding_all rfl
  · rw [environment_eq, declared_eq]
    with_unfolding_all rfl

end Execution

end Workflow
