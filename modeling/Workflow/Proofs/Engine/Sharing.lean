import Mathlib.Data.List.Infix
import Workflow.Proofs.Engine.Trail

/-!
# Executions with shared objects

The fields of a step, the environment and what is bound in it are objects.  A handler is handed these
objects themselves, may change any of them and the parts of any of them, and may reply with any of
them.  The output of an entry is the very object that the handler replied with; the input of an entry
has its parts in common with the fields of the step.  Only the environment is copied part by part.

An execution is told here with such objects, for handlers that do whatever they like.  What an object
has others in it for is left open: an object is known by what it reads as from time to time, and a
change in a part is a change in every object that the part belongs to.
-/

namespace Workflow.Sharing

/-! ## Objects -/

/-- The objects there are, each with what it reads as. -/
structure Memory where
  count : Nat
  value : Nat → Value

namespace Memory

/-- The fields of an object. -/
def fields (memory : Memory) (number : Nat) : Object :=
  match memory.value number with
  | .obj fields => fields
  | _ => []

/-- Make an object that reads as a value. -/
def make (memory : Memory) (value : Value) : Memory where
  count := memory.count + 1
  value number := if number = memory.count then value else memory.value number

variable {memory : Memory} {number : Nat}

theorem value_make (inside : number < memory.count) (value : Value) :
    (memory.make value).value number = memory.value number :=
  if_neg (Nat.ne_of_lt inside)

theorem fields_make_count (memory : Memory) (fields : Object) :
    (memory.make (.obj fields)).fields memory.count = fields := by
  simp [Memory.fields, make]

end Memory

/-- The objects that names are bound to. -/
abbrev Bindings := List (Name × Nat)

namespace Bindings

/-- The object that a name is bound to. -/
def number? (bindings : Bindings) (name : Name) : Option Nat :=
  (bindings.find? fun bound => bound.1.identity = name.identity).map (·.2)

/-- Bind a name: in place when it is bound, at the end when not. -/
def set : Bindings → Name → Nat → Bindings
  | [], name, number => [(name, number)]
  | (known, old) :: rest, name, number =>
    if known.identity = name.identity then (known, number) :: rest
    else (known, old) :: set rest name number

theorem number?_cons (known : Name) (number : Nat) (rest : Bindings) (name : Name) :
    number? ((known, number) :: rest) name =
      if known.identity = name.identity then some number else number? rest name := by
  rw [number?, List.find?_cons]
  by_cases here : known.identity = name.identity <;> simp [here, number?]

theorem number?_set (bindings : Bindings) (name : Name) (number : Nat) (wanted : Name) :
    (bindings.set name number).number? wanted =
      if name.identity = wanted.identity then some number else bindings.number? wanted := by
  induction bindings with
  | nil => rw [set, number?_cons]
  | cons bound rest ih =>
      obtain ⟨known, old⟩ := bound
      rw [set]
      split
      · rename_i here
        simp only [number?_cons, here]
        split <;> rfl
      · rename_i here
        rw [number?_cons, number?_cons, ih]
        by_cases found : known.identity = wanted.identity
        · rw [if_pos found, if_pos found, if_neg fun same => here (found.trans same.symm)]
        · rw [if_neg found, if_neg found]

/-- What is bound once a name was set is the new object, or was bound before. -/
theorem mem_set {bindings : Bindings} {name : Name} {number : Nat} {bound : Name × Nat}
    (member : bound ∈ bindings.set name number) :
    bound ∈ bindings ∨ bound.1.identity = name.identity ∧ bound.2 = number := by
  induction bindings with
  | nil =>
      rw [List.mem_singleton.1 member]
      exact .inr ⟨rfl, rfl⟩
  | cons first rest ih =>
      rw [set] at member
      split at member
      · rename_i same
        rcases List.mem_cons.1 member with rfl | later
        · exact .inr ⟨same, rfl⟩
        · exact .inl (List.mem_cons_of_mem _ later)
      · rcases List.mem_cons.1 member with rfl | later
        · exact .inl List.mem_cons_self
        · exact (ih later).imp_left (List.mem_cons_of_mem _)

end Bindings

/-- The environment that bindings read as. -/
def Memory.environment (memory : Memory) (bindings : Bindings) : Object :=
  bindings.map fun bound => (bound.1, memory.value bound.2)

theorem Memory.environment_set (memory : Memory) (bindings : Bindings) (name : Name) (number : Nat) :
    memory.environment (bindings.set name number) =
      Object.set (memory.environment bindings) name (memory.value number) := by
  induction bindings with
  | nil => rfl
  | cons bound rest ih =>
      rw [Bindings.set]
      by_cases here : bound.1.identity = name.identity
      · simp [environment, Object.set, here]
      · simp only [environment] at ih
        simp [environment, Object.set, here, ih]

/-! ## Executions -/

/-- What a handler leaves behind: objects that it made, what every object then reads as, the bindings
of the environment that it was handed, the world, and the object that it replies with. -/
structure Effect (memory : Memory) where
  made : Nat := 0
  value : Nat → Value
  bindings : Bindings
  world : World
  result : Except Failure (Fin (memory.count + made))

/-- The objects that there are once a handler has replied. -/
def Effect.memory {memory : Memory} (effect : Effect memory) : Memory where
  count := memory.count + effect.made
  value := effect.value

/-- Carries out one kind of step: the object of its fields, the bindings of the environment, request,
world and all objects to an effect. -/
abbrev Handler := Nat → Bindings → Request → World → (memory : Memory) → Effect memory

/-- An entry that is kept, with the objects that its input and its output are. -/
structure Kept where
  /-- The entry as it was when it was recorded, which is what was pushed of it. -/
  recorded : Entry
  fields : Nat
  output : Option Nat

/-- What an entry shows when objects read as they do. -/
def Kept.shown (memory : Memory) (kept : Kept) : Entry :=
  { kept.recorded with
    fields := memory.fields kept.fields
    output := (kept.output.map memory.value).getD .null }

/-- How far an execution has come. -/
structure State where
  bindings : Bindings
  memory : Memory
  world : World
  /-- The entries of the trace. -/
  trace : List Kept := []
  /-- The entries that the sink was told, each of them pushed. -/
  log : List Kept := []

/-- An entry that is to be kept: its input is an object of its own. -/
def State.kept (state : State) (entry : Entry) (output : Option Nat) : Kept where
  recorded := entry
  fields := state.memory.count
  output := output

/-- Tell the sink an entry. -/
def State.record (state : State) (entry : Entry) (output : Option Nat) : State :=
  { state with
    memory := state.memory.make (.obj entry.fields)
    log := state.log ++ [state.kept entry output] }

/-- Keep an entry in the trace, and tell the sink. -/
def State.close (state : State) (entry : Entry) (output : Option Nat) : State :=
  { state.record entry output with trace := state.trace ++ [state.kept entry output] }

/-- A step with the fields that an object has. -/
def stepOf (step : Step) (memory : Memory) (number : Nat) : Step :=
  { step with fields := memory.fields number }

/-- The state in which a handler is called: the sink was told that the step begins. -/
def State.opened (state : State) (index : Nat) (step : Step) : State :=
  state.record
    (({ environment := state.memory.environment state.bindings } : Progress).entry index
      (stepOf step state.memory (index + 1)) .started state.world.now) none

/-- The state that a handler leaves. -/
def State.after (state : State) (effect : Effect state.memory) : State :=
  { state with bindings := effect.bindings, memory := effect.memory, world := effect.world }

/-- What the handler of a step does. -/
def State.effect (state : State) (handlers : String → Handler) (request : Request) (index : Nat)
    (step : Step) : Effect state.memory :=
  handlers step.kind (index + 1) state.bindings request state.world state.memory

/-- The entry that tells of the end of a step. -/
def endingEntry (index : Nat) (step : Step) (environment : Object) (now : Moment) :
    Except Failure Value → Entry
  | .ok value => Execution.finishedEntry index step environment now value
  | .error failure => Execution.failedEntry index step environment now failure.report

/-- The entry that tells of the end of a step that began in a state. -/
def State.ending (state : State) (index : Nat) (step : Step) {memory : Memory}
    (effect : Effect memory) : Entry :=
  endingEntry index (stepOf step effect.memory (index + 1))
    (state.memory.environment state.bindings) state.world.now
    (effect.result.map fun number : Fin _ => effect.value number)

/-- The object that a handler replied with. -/
def Effect.output {memory : Memory} (effect : Effect memory) : Option Nat :=
  effect.result.toOption.map Fin.val

/-- Run one step, and tell which object is its output if it finished. -/
def runStep (handlers : String → Handler) (request : Request) (index : Nat) (step : Step)
    (state : State) : Option Nat × State :=
  let opened := state.opened index step
  let effect := opened.effect handlers request index step
  (effect.output, (opened.after effect).close (state.ending index step effect) effect.output)

/-- Bind a name. -/
def State.bind (state : State) (name : String) (number : Nat) : State :=
  { state with bindings := state.bindings.set name number }

/-- Run steps from a position on, up to the first failure. -/
def runFrom (handlers : String → Handler) (request : Request) : Nat → List Step → State → State
  | _, [], state => state
  | index, step :: rest, state =>
    match runStep handlers request index step state with
    | (some number, state) =>
      runFrom handlers request (index + 1) rest (state.bind step.output number)
    | (none, state) => state

/-- The execution of steps that is about to begin: object zero is a copy of the input, and behind it
come the fields of the steps. -/
def start (steps : List Step) (input : Object) (world : World) : State where
  bindings := [("input", 0)]
  memory := {
    count := steps.length + 1
    value := fun number => ((.obj input :: steps.map (.obj ·.fields))[number]?).getD .null }
  world := world

section

variable {handlers : String → Handler} {request : Request} {index : Nat} {step : Step}
  {state : State}

/-! ## Entries are only added -/

/-- Entries are added to others. -/
structure State.Extends (state before : State) : Prop where
  trace : before.trace <+: state.trace
  log : before.log <+: state.log

theorem State.Extends.refl (state : State) : state.Extends state :=
  ⟨List.prefix_refl _, List.prefix_refl _⟩

theorem State.Extends.trans {first second third : State} (later : third.Extends second)
    (earlier : second.Extends first) : third.Extends first :=
  ⟨earlier.trace.trans later.trace, earlier.log.trans later.log⟩

theorem extends_runStep : (runStep handlers request index step state).2.Extends state :=
  ⟨List.prefix_append _ _, (List.prefix_append _ _).trans (List.prefix_append _ _)⟩

theorem extends_runFrom (steps : List Step) :
    (runFrom handlers request index steps state).Extends state := by
  induction steps generalizing index state with
  | nil => exact .refl state
  | cons step rest ih =>
      have stepped := @extends_runStep handlers request index step state
      rw [runFrom]
      split
      · rename_i outcome
        rw [outcome] at stepped
        exact ih.trans ⟨stepped.trace, stepped.log⟩
      · rename_i outcome
        rwa [outcome] at stepped

/-- A whole execution adds entries to those of its first steps. -/
theorem extends_take (steps : List Step) (n : Nat) :
    (runFrom handlers request index steps state).Extends
      (runFrom handlers request index (steps.take n) state) := by
  induction steps generalizing index state n with
  | nil =>
      rw [List.take_nil]
      exact .refl _
  | cons step rest ih =>
      cases n with
      | zero => exact extends_runFrom _
      | succ n =>
          rw [List.take_succ_cons, runFrom, runFrom]
          split
          · exact ih n
          · exact .refl _

/-- The sink is told every entry of the trace. -/
theorem trace_subset_log (steps : List Step) (known : state.trace ⊆ state.log) :
    (runFrom handlers request index steps state).trace ⊆
      (runFrom handlers request index steps state).log := by
  induction steps generalizing index state with
  | nil => exact known
  | cons step rest ih =>
      have stepped : (runStep handlers request index step state).2.trace ⊆
          (runStep handlers request index step state).2.log :=
        List.append_subset.2
          ⟨fun kept among => List.mem_append_left _ (List.mem_append_left _ (known among)),
            List.subset_append_right _ _⟩
      rw [runFrom]
      split
      · rename_i outcome
        rw [outcome] at stepped
        exact ih stepped
      · rename_i outcome
        rwa [outcome] at stepped

/-! ## Handlers that leave objects alone -/

/-- A handler leaves every object as it is that was there when it was called. -/
def Handler.LeavesObjects (handler : Handler) : Prop :=
  ∀ (fields : Nat) (bindings : Bindings) (request : Request) (world : World) (memory : Memory),
    ∀ number < memory.count,
      (handler fields bindings request world memory).value number = memory.value number

/-- An entry shows what was recorded, and the objects that it has are there. -/
structure Kept.IsIntact (kept : Kept) (memory : Memory) : Prop where
  fields_lt : kept.fields < memory.count
  output_lt : ∀ number ∈ kept.output, number < memory.count
  shown_eq : kept.shown memory = kept.recorded

/-- An entry stays intact as long as the objects there are read the same. -/
theorem Kept.IsIntact.of_value {kept : Kept} {memory after : Memory} (intact : kept.IsIntact memory)
    (more : memory.count ≤ after.count)
    (same : ∀ number < memory.count, after.value number = memory.value number) :
    kept.IsIntact after := by
  refine ⟨Nat.lt_of_lt_of_le intact.fields_lt more,
    fun number among => Nat.lt_of_lt_of_le (intact.output_lt number among) more, ?_⟩
  have fields_eq : after.fields kept.fields = memory.fields kept.fields := by
    rw [Memory.fields, same _ intact.fields_lt, Memory.fields]
  have output_eq : kept.output.map after.value = kept.output.map memory.value :=
    Option.map_congr fun number among => same number (intact.output_lt number among)
  rw [← intact.shown_eq, shown, fields_eq, output_eq]
  rfl

/-- All entries that the sink was told are intact. -/
def State.IsIntact (state : State) : Prop := ∀ kept ∈ state.log, kept.IsIntact state.memory

/-- An entry is intact once the sink was told it, when its output is what an object reads as. -/
theorem State.isIntact_kept (state : State) {entry : Entry} {output : Option Nat}
    (output_lt : ∀ number ∈ output, number < state.memory.count)
    (output_eq : entry.output = (output.map state.memory.value).getD .null) :
    (state.kept entry output).IsIntact (state.memory.make (.obj entry.fields)) := by
  refine ⟨Nat.lt_succ_self _, fun number among => Nat.lt_succ_of_lt (output_lt number among), ?_⟩
  have made_eq : output.map (state.memory.make (.obj entry.fields)).value =
      output.map state.memory.value :=
    Option.map_congr fun number among => Memory.value_make (output_lt number among) _
  simp only [Kept.shown, kept, Memory.fields_make_count, made_eq, ← output_eq]

theorem State.IsIntact.record (intact : state.IsIntact) {entry : Entry} {output : Option Nat}
    (output_lt : ∀ number ∈ output, number < state.memory.count)
    (output_eq : entry.output = (output.map state.memory.value).getD .null) :
    (state.record entry output).IsIntact := by
  intro kept member
  rcases List.mem_append.1 member with old | new
  · exact (intact kept old).of_value (Nat.le_succ _) fun number inside =>
      Memory.value_make inside (.obj entry.fields)
  · obtain rfl := List.mem_singleton.1 new
    exact state.isIntact_kept output_lt output_eq

theorem Effect.output_lt {memory : Memory} (effect : Effect memory) :
    ∀ number ∈ effect.output, number < effect.memory.count := by
  intro number among
  obtain ⟨made, -, rfl⟩ := Option.map_eq_some_iff.1 among
  exact made.isLt

theorem State.output_ending (state : State) (index : Nat) (step : Step) {memory : Memory}
    (effect : Effect memory) :
    (state.ending index step effect).output = (effect.output.map effect.value).getD .null := by
  unfold ending Effect.output
  cases effect.result <;> rfl

theorem isIntact_runStep (leaves : ∀ kind, (handlers kind).LeavesObjects)
    (intact : state.IsIntact) : (runStep handlers request index step state).2.IsIntact := by
  let opened := state.opened index step
  let effect := opened.effect handlers request index step
  have opened_intact : opened.IsIntact := intact.record nofun rfl
  have told_intact : (opened.after effect).IsIntact := fun kept member =>
    (opened_intact kept member).of_value (Nat.le_add_right _ _) (leaves _ _ _ _ _ _)
  exact told_intact.record effect.output_lt (state.output_ending index step effect)

/-- Handlers that leave objects alone leave all entries as they were recorded. -/
theorem isIntact_runFrom (leaves : ∀ kind, (handlers kind).LeavesObjects) (intact : state.IsIntact)
    (steps : List Step) : (runFrom handlers request index steps state).IsIntact := by
  induction steps generalizing index state with
  | nil => exact intact
  | cons step rest ih =>
      have stepped := @isIntact_runStep handlers request index step state leaves intact
      rw [runFrom]
      split
      · rename_i outcome
        rw [outcome] at stepped
        exact ih stepped
      · rename_i outcome
        rwa [outcome] at stepped

end

/-! ## A part that is changed -/

/-- Finishes, and adds an item to a list that steps have in their fields. -/
def addingHandler : Handler := fun _ bindings _ world memory => {
  made := 1
  value := fun number =>
    match memory.value number with
    | .obj [(name, .arr items)] => .obj [(name, .arr (items ++ [.null]))]
    | value => value
  bindings
  world
  result := .ok (Fin.last memory.count) }

/-- Two steps, the first with a list in its fields. -/
def addingSteps : List Step :=
  [⟨"step1", "add", [("tags", .arr [])], "first"⟩, ⟨"step2", "add", [], "second"⟩]

/-- The handler of the second step changes the input of the entry about the first. -/
example :
    let ended := runFrom (fun _ => addingHandler) ⟨"run", {}, []⟩ 0 addingSteps
      (start addingSteps [] {})
    ended.trace.map (·.recorded.fields) = [[(.text "tags", .arr [.null])], []] ∧
      ended.trace.map (fun kept => (kept.shown ended.memory).fields) =
        [[(.text "tags", .arr [.null, .null])], []] :=
  ⟨by with_unfolding_all rfl, by with_unfolding_all rfl⟩

end Workflow.Sharing
