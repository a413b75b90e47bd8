import Workflow.Proofs.Engine.SharedInput
import Workflow.Proofs.Engine.Sharing

/-!
# Handlers that set fields in the input

A handler of the engine replies with a value, and all that it may change is fields of the object
bound to `input`.  With shared objects this is a condition: the handler replies with an object of its
own, and leaves every other object as it is.  Under it an execution with shared objects is the
execution of the engine, and of what was recorded only the output of a step that binds `input`
changes.  Without it only the environment of an entry is certain to stay, since it alone was copied
part by part.
-/

namespace Workflow

/-- The handler that an engine calls for a kind of step. -/
def Registry.called (registry : Registry Handler) (kind : String) : Handler :=
  fun fields environment request world =>
    Execution.reply registry request ⟨"", kind, fields, ""⟩ environment world

namespace Sharing

/-! ## The condition -/

/-- What a handler did is what a reply tells: it set the fields that the reply tells of in the object
bound to `input`, and replied with a new object or failed. -/
structure Effect.SetsInput {memory : Memory} (effect : Effect memory) (bindings : Bindings)
    (reply : Reply) : Prop where
  world_eq : effect.world = reply.world
  bindings_eq : effect.bindings = bindings
  value_eq : ∀ number < memory.count, effect.value number =
    if bindings.number? "input" = some number then (memory.value number).withFields reply.writes
    else memory.value number
  result_eq : effect.result.map (fun number : Fin _ => effect.value number) = reply.result
  new : ∀ number, effect.result = .ok number → memory.count ≤ number

/-- A handler does what a handler of the engine tells in its reply. -/
def Handler.SetsInput (handler : Handler) (plain : Workflow.Handler) : Prop :=
  ∀ (fields : Nat) (bindings : Bindings) (request : Request) (world : World) (memory : Memory),
    (handler fields bindings request world memory).SetsInput bindings
      (plain (memory.fields fields) (memory.environment bindings) request world)

/-- The handler that does what a handler of the engine tells in its reply. -/
def Handler.ofPlain (plain : Workflow.Handler) : Handler :=
  fun fields bindings request world memory =>
    let reply := plain (memory.fields fields) (memory.environment bindings) request world
    { made := 1
      value := fun number =>
        if number < memory.count then
          if bindings.number? "input" = some number then
            (memory.value number).withFields reply.writes
          else memory.value number
        else reply.result.toOption.getD .null
      bindings := bindings
      world := reply.world
      result := reply.result.map fun _ => Fin.last memory.count }

theorem Handler.setsInput_ofPlain (plain : Workflow.Handler) : (ofPlain plain).SetsInput plain := by
  intro fields bindings request world memory
  refine ⟨rfl, rfl, fun number inside => if_pos inside, ?_, ?_⟩
  · simp only [ofPlain]
    cases (plain (memory.fields fields) (memory.environment bindings) request world).result with
    | ok value => simp [Except.map, Except.toOption]
    | error failure => rfl
  · intro number ended
    simp only [ofPlain] at ended
    cases replied : (plain (memory.fields fields) (memory.environment bindings) request
        world).result with
    | ok value =>
        rw [replied] at ended
        rw [← Except.ok.inj ended]
        exact Nat.le_refl _
    | error failure =>
        rw [replied] at ended
        cases ended

/-! ## Fields set in one object -/

/-- Of the objects there were, one may have been changed: fields were set in it. -/
structure Memory.SetsIn (after before : Memory) (input : Nat) (writes : Object) : Prop where
  count_le : before.count ≤ after.count
  value_eq : ∀ number < before.count, after.value number =
    if number = input then (before.value number).withFields writes else before.value number

namespace Memory.SetsIn

variable {first second third : Memory} {input : Nat} {writes later : Object}

theorem make (memory : Memory) (value : Value) (input : Nat) :
    (memory.make value).SetsIn memory input [] :=
  ⟨Nat.le_succ _, fun _ inside => by rw [value_make inside, Value.withFields_nil, ite_self]⟩

theorem value_other (sets : second.SetsIn first input writes) {number : Nat}
    (inside : number < first.count) (other : number ≠ input) :
    second.value number = first.value number := by
  rw [sets.value_eq number inside, if_neg other]

theorem trans (after : third.SetsIn second input later) (sets : second.SetsIn first input writes) :
    third.SetsIn first input (writes ++ later) := by
  refine ⟨sets.count_le.trans after.count_le, fun number inside => ?_⟩
  rw [after.value_eq number (Nat.lt_of_lt_of_le inside sets.count_le), sets.value_eq number inside]
  split
  · rw [Value.withFields_append]
  · rfl

/-- What is set in an object that was made later does not show in those there were before. -/
theorem trans_new {made : Nat} (after : third.SetsIn second made later)
    (sets : second.SetsIn first input writes) (new : first.count ≤ made) :
    third.SetsIn first input writes := by
  refine ⟨sets.count_le.trans after.count_le, fun number inside => ?_⟩
  rw [after.value_other (Nat.lt_of_lt_of_le inside sets.count_le)
    (Nat.ne_of_lt (Nat.lt_of_lt_of_le inside new)), sets.value_eq number inside]

end Memory.SetsIn

/-- An intact entry shows fields that are set in an object if that object is its output. -/
theorem Kept.IsIntact.shown_setsIn {kept : Kept} {memory after : Memory} {input : Nat}
    {writes : Object} (intact : kept.IsIntact memory) (sets : after.SetsIn memory input writes)
    (apart : kept.fields ≠ input) :
    kept.shown after =
      if kept.output = some input then kept.recorded.withFields writes else kept.recorded := by
  have fields_eq : after.fields kept.fields = memory.fields kept.fields := by
    rw [Memory.fields, sets.value_other intact.fields_lt apart, Memory.fields]
  rw [← intact.shown_eq, shown, fields_eq]
  cases output_eq : kept.output with
  | none => simp [shown, output_eq]
  | some number =>
      have inside := intact.output_lt number output_eq
      simp only [Option.map_some, Option.getD_some, sets.value_eq number inside, Option.some.injEq]
      split <;> simp [shown, output_eq, Entry.withFields]

/-- An entry stays intact when fields are set in an object that is neither its input nor its
output. -/
theorem Kept.IsIntact.of_setsIn {kept : Kept} {memory after : Memory} {input : Nat}
    {writes : Object} (intact : kept.IsIntact memory) (sets : after.SetsIn memory input writes)
    (apart : kept.fields ≠ input) (other : kept.output ≠ some input) : kept.IsIntact after where
  fields_lt := Nat.lt_of_lt_of_le intact.fields_lt sets.count_le
  output_lt number among := Nat.lt_of_lt_of_le (intact.output_lt number among) sets.count_le
  shown_eq := by rw [intact.shown_setsIn sets apart, if_neg other]

/-! ## Environments -/

/-- The numbers of the objects that names are bound to. -/
def Bindings.numbers (bindings : Bindings) : List Nat := bindings.map (·.2)

namespace Bindings

variable {bindings : Bindings} {name : Name} {number : Nat}

theorem mem_numbers_of_number? (found : bindings.number? name = some number) :
    number ∈ bindings.numbers := by
  obtain ⟨bound, first, rfl⟩ := Option.map_eq_some_iff.1 found
  exact List.mem_map_of_mem (List.mem_of_find?_eq_some first)

theorem mem_numbers_set {wanted : Nat} (member : wanted ∈ (bindings.set name number).numbers) :
    wanted ∈ bindings.numbers ∨ wanted = number := by
  obtain ⟨bound, among, rfl⟩ := List.mem_map.1 member
  exact (mem_set among).imp (List.mem_map_of_mem ·) (·.2)

/-- No two names are bound to one object once a name is bound to an object that no name was bound
to. -/
theorem nodup_numbers_set (single : bindings.numbers.Nodup) (new : number ∉ bindings.numbers) :
    (bindings.set name number).numbers.Nodup := by
  induction bindings with
  | nil => exact List.nodup_singleton number
  | cons bound rest ih =>
      obtain ⟨known, old⟩ := bound
      obtain ⟨absent, single⟩ := List.nodup_cons.1 single
      obtain ⟨other, new⟩ := not_or.1 (mt List.mem_cons.2 new)
      rw [set]
      split
      · exact List.nodup_cons.2 ⟨new, single⟩
      · refine List.nodup_cons.2 ⟨fun member => ?_, ih single new⟩
        rcases mem_numbers_set member with among | same
        · exact absent among
        · exact other same.symm

end Bindings

theorem Memory.environment_cons (memory : Memory) (name : Name) (number : Nat) (rest : Bindings) :
    memory.environment ((name, number) :: rest) =
      (name, memory.value number) :: memory.environment rest := rfl

theorem Memory.get?_environment (memory : Memory) (bindings : Bindings) (name : Name) :
    Object.get? (memory.environment bindings) name = (bindings.number? name).map memory.value := by
  induction bindings with
  | nil => rfl
  | cons bound rest ih =>
      obtain ⟨known, number⟩ := bound
      rw [environment_cons, Object.get?, Bindings.number?_cons, ih]
      split <;> rfl

/-- Fields are set in what `input` is bound to. -/
theorem written_eq_set {environment : Object} {value : Value}
    (found : Object.get? environment "input" = some value) (writes : Object) :
    Execution.written environment writes =
      Object.set environment "input" (value.withFields writes) := by
  have field_eq : Value.field environment "input" = value := by rw [Value.field, found]; rfl
  unfold Execution.written
  split
  · rename_i none
    rw [List.isEmpty_iff.1 none, Value.withFields_nil, Object.set_eq_self found]
  · rw [Progress.writeInput, field_eq]
    cases value with
    | obj fields => rfl
    | _ => exact (Object.set_eq_self found).symm

/-- Fields set in the object bound to `input` are set in the environment. -/
theorem Memory.SetsIn.environment_eq {memory after : Memory} {bindings : Bindings} {input : Nat}
    {writes : Object} (sets : after.SetsIn memory input writes)
    (bound : bindings.number? "input" = some input) (single : bindings.numbers.Nodup)
    (inside : ∀ number ∈ bindings.numbers, number < memory.count) :
    after.environment bindings = Execution.written (memory.environment bindings) writes := by
  have found : Object.get? (memory.environment bindings) "input" = some (memory.value input) := by
    rw [Memory.get?_environment, bound, Option.map_some]
  rw [written_eq_set found]
  clear found
  induction bindings with
  | nil => cases bound
  | cons first rest ih =>
      obtain ⟨known, number⟩ := first
      obtain ⟨absent, single⟩ := List.nodup_cons.1 single
      have first_inside := inside number List.mem_cons_self
      have rest_inside := fun other among => inside other (List.mem_cons_of_mem number among)
      rw [Bindings.number?_cons] at bound
      rw [environment_cons, environment_cons, Object.set]
      split at bound
      · -- The other names are bound to other objects, which read the same.
        rename_i here
        obtain rfl := Option.some.inj bound
        have rest_eq : after.environment rest = memory.environment rest :=
          List.map_congr_left fun pair among => by
            have listed : pair.2 ∈ Bindings.numbers rest := List.mem_map_of_mem among
            rw [sets.value_other (rest_inside _ listed) fun same => absent (same ▸ listed)]
        rw [if_pos here, rest_eq, sets.value_eq number first_inside, if_pos rfl]
      · rename_i here
        have other : number ≠ input := fun same =>
          absent (same ▸ Bindings.mem_numbers_of_number? bound)
        rw [if_neg here, ih bound single rest_inside, sets.value_other first_inside other]

/-! ## Steps -/

open Execution (Call)

/-- An execution is about to run steps from a position on: names are bound to objects of their own,
and the objects with the fields of the steps are not the one bound to `input`. -/
structure Stands (bindings : Bindings) (memory : Memory) (index : Nat) (steps : List Step)
    (input : Nat) : Prop where
  bound : bindings.number? "input" = some input
  single : bindings.numbers.Nodup
  inside : ∀ number ∈ bindings.numbers, number < memory.count
  fields : ∀ (position : Nat) (step : Step), steps[position]? = some step →
    index + position + 1 < memory.count ∧ index + position + 1 ≠ input ∧
      memory.value (index + position + 1) = .obj step.fields

namespace Stands

variable {bindings : Bindings} {memory after : Memory} {index : Nat} {step : Step}
  {steps : List Step} {input : Nat} {writes : Object}

theorem input_lt (stands : Stands bindings memory index steps input) : input < memory.count :=
  stands.inside input (Bindings.mem_numbers_of_number? stands.bound)

theorem stepOf_eq (stands : Stands bindings memory index (step :: steps) input) :
    stepOf step memory (index + 1) = step := by
  have fields_eq : memory.value (index + 1) = .obj step.fields := (stands.fields 0 step rfl).2.2
  rw [stepOf, Memory.fields, fields_eq]

theorem setsIn (stands : Stands bindings memory index steps input)
    (sets : after.SetsIn memory input writes) : Stands bindings after index steps input where
  bound := stands.bound
  single := stands.single
  inside number among := Nat.lt_of_lt_of_le (stands.inside number among) sets.count_le
  fields position step stepAt := by
    obtain ⟨fields_lt, apart, fields_eq⟩ := stands.fields position step stepAt
    exact ⟨Nat.lt_of_lt_of_le fields_lt sets.count_le, apart,
      (sets.value_other fields_lt apart).trans fields_eq⟩

/-- The environment once fields were set in the object bound to `input`. -/
theorem environment_eq (stands : Stands bindings memory index steps input)
    (sets : after.SetsIn memory input writes) :
    after.environment bindings = Execution.written (memory.environment bindings) writes :=
  sets.environment_eq stands.bound stands.single stands.inside

/-- The next step is due once the output of a step is bound to an object that is new since the step
began. -/
theorem set (stands : Stands bindings memory index (step :: steps) input)
    (sets : after.SetsIn memory input writes) {number : Nat} (new : memory.count ≤ number)
    (made : number < after.count) :
    Stands (bindings.set step.output number) after (index + 1) steps
      (if step.output = "input" then number else input) where
  bound := by
    rw [Bindings.number?_set, stands.bound]
    simp only [Name.identity_text, Name.Identity.text.injEq]
    split <;> rfl
  single := Bindings.nodup_numbers_set stands.single fun among =>
    Nat.not_le_of_lt (stands.inside number among) new
  inside wanted among := by
    rcases Bindings.mem_numbers_set among with old | rfl
    · exact Nat.lt_of_lt_of_le (stands.inside wanted old) sets.count_le
    · exact made
  fields position later stepAt := by
    obtain ⟨fields_lt, apart, fields_eq⟩ := (stands.setsIn sets).fields (position + 1) later stepAt
    have before := (stands.fields (position + 1) later stepAt).1
    have shift : index + 1 + position + 1 = index + (position + 1) + 1 := by omega
    rw [shift]
    refine ⟨fields_lt, ?_, fields_eq⟩
    split
    · omega
    · exact apart

end Stands

/-- What a step adds: an entry for its beginning, and one for its end that the trace keeps too. -/
structure State.Adds (after before : State) (call : Call) (input : Nat) (opening closing : Kept) :
    Prop where
  bindings_eq : after.bindings = before.bindings
  trace_eq : after.trace = before.trace ++ [closing]
  log_eq : after.log = before.log ++ [opening, closing]
  opening_eq : opening.recorded = call.entry.opening
  closing_eq : closing.recorded = call.entry
  opening_output : opening.output = none
  opening_fields : opening.fields = before.memory.count
  closing_fields : closing.fields + 1 = after.memory.count
  opening_intact : opening.IsIntact after.memory
  closing_intact : closing.IsIntact after.memory
  new : ∀ number ∈ closing.output, before.memory.count < number ∧ number < closing.fields
  sets : after.memory.SetsIn before.memory input call.writes

section Step

variable {registry : Registry Workflow.Handler} {handlers : String → Handler} {request : Request}
  {index : Nat} {step : Step} {steps : List Step} {state : State} {input : Nat}

theorem Effect.SetsInput.setsIn {memory : Memory} {effect : Effect memory} {bindings : Bindings}
    {reply : Reply} (sets : effect.SetsInput bindings reply)
    (bound : bindings.number? "input" = some input) :
    effect.memory.SetsIn memory input reply.writes := by
  refine ⟨Nat.le_add_right _ _, fun number inside => ?_⟩
  have value_eq : effect.memory.value number = _ := sets.value_eq number inside
  rw [value_eq, bound]
  simp only [Option.some.injEq, eq_comm]

theorem Effect.SetsInput.output_eq {memory : Memory} {effect : Effect memory} {bindings : Bindings}
    {reply : Reply} (sets : effect.SetsInput bindings reply) :
    effect.output.map effect.value = reply.result.toOption := by
  rw [← sets.result_eq, Effect.output]
  cases effect.result <;> rfl

theorem Effect.SetsInput.le_output {memory : Memory} {effect : Effect memory} {bindings : Bindings}
    {reply : Reply} (sets : effect.SetsInput bindings reply) :
    ∀ number ∈ effect.output, memory.count ≤ number := by
  intro number among
  rw [Effect.output] at among
  cases ended : effect.result with
  | ok made =>
      rw [ended] at among
      rw [← Option.some.inj among]
      exact sets.new made ended
  | error failure =>
      rw [ended] at among
      cases among

/-- The handler of a step is called with what the engine calls its own with. -/
theorem setsInput_effect (sets : (handlers step.kind).SetsInput (registry.called step.kind))
    (stands : Stands state.bindings state.memory index (step :: steps) input) :
    ((state.opened index step).effect handlers request index step).SetsInput state.bindings
      (Execution.reply registry request step (state.memory.environment state.bindings)
        state.world) := by
  let opened := state.opened index step
  have opens : opened.memory.SetsIn state.memory input [] := .make _ _ _
  have environment_eq : opened.memory.environment state.bindings =
      state.memory.environment state.bindings := stands.environment_eq opens
  have fields_eq : opened.memory.fields (index + 1) = step.fields :=
    congrArg Step.fields (stands.setsIn opens).stepOf_eq
  have effected := sets (index + 1) state.bindings request state.world opened.memory
  rw [environment_eq, fields_eq] at effected
  exact effected

/-- The call of the handler of a step. -/
def callOf (registry : Registry Workflow.Handler) (request : Request) (index : Nat) (step : Step)
    (environment : Object) (world : World) : Call :=
  let reply := Execution.reply registry request step environment world
  ⟨step, reply.writes, endingEntry index step environment world.now reply.result⟩

theorem opening_endingEntry (index : Nat) (step : Step) (environment : Object) (now : Moment)
    (result : Except Failure Value) :
    (endingEntry index step environment now result).opening =
      ({ environment } : Progress).entry index step .started now := by
  cases result <;> rfl

theorem opened_eq (stands : Stands state.bindings state.memory index (step :: steps) input) :
    state.opened index step =
      state.record (callOf registry request index step
        (state.memory.environment state.bindings) state.world).entry.opening none := by
  rw [State.opened, stands.stepOf_eq]
  exact congrArg (state.record · none) (opening_endingEntry _ _ _ _ _).symm

theorem ending_eq (sets : (handlers step.kind).SetsInput (registry.called step.kind))
    (stands : Stands state.bindings state.memory index (step :: steps) input) :
    state.ending index step ((state.opened index step).effect handlers request index step) =
      (callOf registry request index step (state.memory.environment state.bindings)
        state.world).entry := by
  have effected := @setsInput_effect registry handlers request index step steps state input sets
    stands
  have told := (stands.setsIn (.make _ _ _)).setsIn (effected.setsIn stands.bound)
  rw [State.ending, effected.result_eq, told.stepOf_eq]
  rfl

/-- What a step does whose handler sets fields in the object bound to `input`. -/
theorem runStep_adds (sets : (handlers step.kind).SetsInput (registry.called step.kind))
    (stands : Stands state.bindings state.memory index (step :: steps) input) :
    let environment := state.memory.environment state.bindings
    let reply := Execution.reply registry request step environment state.world
    ∃ opening closing after,
      runStep handlers request index step state = (closing.output, after) ∧
      after.world = reply.world ∧
      closing.output.map after.memory.value = reply.result.toOption ∧
      after.Adds state (callOf registry request index step environment state.world) input opening
        closing := by
  intro environment reply
  let call := callOf registry request index step environment state.world
  let opened := state.opened index step
  let effect := opened.effect handlers request index step
  let told := opened.after effect
  have effected : effect.SetsInput state.bindings reply := setsInput_effect sets stands
  have opens : opened.memory.SetsIn state.memory input [] := .make _ _ _
  have calls : told.memory.SetsIn opened.memory input reply.writes := effected.setsIn stands.bound
  have closes : (told.close call.entry effect.output).memory.SetsIn told.memory input [] :=
    .make _ _ _
  have entry_eq : state.ending index step effect = call.entry := ending_eq sets stands
  have opened_eq : opened = state.record call.entry.opening none := opened_eq stands
  have opened_intact : (state.kept call.entry.opening none).IsIntact opened.memory :=
    (congrArg State.memory opened_eq).symm ▸ state.isIntact_kept nofun rfl
  refine ⟨state.kept call.entry.opening none, told.kept call.entry effect.output,
    told.close call.entry effect.output, ?_, effected.world_eq, ?_, ?_⟩
  · rw [runStep, ← entry_eq]
    rfl
  · rw [← effected.output_eq]
    exact Option.map_congr fun number among => Memory.value_make (effect.output_lt number among) _
  · exact {
      bindings_eq := effected.bindings_eq
      trace_eq := rfl
      log_eq := by
        have log_eq : opened.log = state.log ++ [_] := congrArg State.log opened_eq
        change opened.log ++ [told.kept call.entry effect.output] = _
        rw [log_eq, List.append_assoc]
        rfl
      opening_eq := rfl
      closing_eq := rfl
      opening_output := rfl
      opening_fields := rfl
      closing_fields := rfl
      opening_intact :=
        opened_intact.of_setsIn (closes.trans calls) (Nat.ne_of_gt stands.input_lt) nofun
      closing_intact := told.isIntact_kept effect.output_lt
        (entry_eq ▸ state.output_ending index step effect)
      new := fun number among => ⟨effected.le_output number among, effect.output_lt number among⟩
      sets := by
        have all := closes.trans (calls.trans opens)
        rwa [List.nil_append, List.append_nil] at all }

end Step

/-! ## Executions -/

/-- What calls add to an execution, as it is after the last of them: entries as they were recorded,
which show the fields that later calls set in their output. -/
structure State.Settles (ended state : State) (calls : List Call) (input : Nat) : Prop where
  sets : ended.memory.SetsIn state.memory input (Call.held calls)
  trace : ∃ added, ended.trace = state.trace ++ added ∧
    added.map Kept.recorded = calls.map Call.entry ∧
    added.map (Kept.shown ended.memory) = Call.settled calls
  log : ∃ added, ended.log = state.log ++ added ∧
    added.map Kept.recorded = Entry.stream (calls.map Call.entry) ∧
    added.map (Kept.shown ended.memory) = Entry.stream (Call.settled calls)

theorem opening_shown (call : Call) (later : List Call) :
    (call.shown later).opening = call.entry.opening := by
  unfold Call.shown
  split <;> rfl

namespace State

variable {ended after state : State} {call : Call} {later : List Call} {input : Nat}
  {opening closing : Kept}

/-- The last call. -/
theorem Adds.settles (adds : after.Adds state call input opening closing) :
    after.Settles state [call] input := by
  have shown_eq : call.shown [] = call.entry := by simp [Call.shown, Call.held]
  refine ⟨?_, ⟨[closing], adds.trace_eq, ?_, ?_⟩, ⟨[opening, closing], adds.log_eq, ?_, ?_⟩⟩
  · simpa [Call.held] using adds.sets
  · rw [List.map_singleton, adds.closing_eq, List.map_singleton]
  · rw [List.map_singleton, adds.closing_intact.shown_eq, adds.closing_eq, Call.settled, shown_eq,
      Call.settled]
  · simp [Entry.stream, adds.opening_eq, adds.closing_eq]
  · simp [Entry.stream, Call.settled, shown_eq, adds.opening_intact.shown_eq,
      adds.closing_intact.shown_eq, adds.opening_eq, adds.closing_eq]

/-- A call before others: they set fields in its output as long as `input` is bound to it. -/
theorem Settles.cons {number : Nat} (adds : after.Adds state call input opening closing)
    (input_lt : input < state.memory.count) (output_eq : closing.output = some number)
    (settles : ended.Settles (after.bind call.step.output number) later
      (if call.step.output = "input" then number else input)) :
    ended.Settles state (call :: later) input := by
  obtain ⟨sets, ⟨trace, trace_eq, trace_recorded, trace_shown⟩,
    ⟨log, log_eq, log_recorded, log_shown⟩⟩ := settles
  obtain ⟨new, made⟩ := adds.new number output_eq
  have opening_fields := adds.opening_fields
  have closing_shown : closing.shown ended.memory = call.shown later := by
    rw [adds.closing_intact.shown_setsIn sets (by split <;> omega), output_eq, adds.closing_eq,
      Call.shown]
    split
    · rw [if_pos rfl]
    · exact if_neg fun same => Nat.ne_of_gt (input_lt.trans new) (Option.some.inj same)
  have opening_eq : opening.shown ended.memory = (call.shown later).opening := by
    rw [adds.opening_intact.shown_setsIn sets (by split <;> omega), adds.opening_output,
      if_neg (Option.some_ne_none _).symm, adds.opening_eq, opening_shown]
  refine ⟨?_, ⟨closing :: trace, ?_, ?_, ?_⟩, ⟨opening :: closing :: log, ?_, ?_, ?_⟩⟩
  · rw [Call.held]
    split at sets
    · rw [if_pos ‹_›, List.append_nil]
      exact sets.trans_new adds.sets (Nat.le_of_lt new)
    · rw [if_neg ‹_›]
      exact sets.trans adds.sets
  · rw [trace_eq, bind, adds.trace_eq, List.append_assoc, List.singleton_append]
  · rw [List.map_cons, List.map_cons, trace_recorded, adds.closing_eq]
  · rw [List.map_cons, trace_shown, closing_shown, Call.settled]
  · rw [log_eq, bind, adds.log_eq, List.append_assoc]
    rfl
  · rw [List.map_cons, List.map_cons, log_recorded, adds.opening_eq, adds.closing_eq]
    rfl
  · rw [List.map_cons, List.map_cons, log_shown, opening_eq, closing_shown]
    rfl

end State

section Run

variable {registry : Registry Workflow.Handler} {handlers : String → Handler} {request : Request}

theorem calls_cons (registry : Registry Workflow.Handler) (request : Request) (index : Nat)
    (step : Step) (rest : List Step) (environment : Object) (world : World) :
    Execution.calls registry request index (step :: rest) environment world =
      callOf registry request index step environment world ::
        match (Execution.reply registry request step environment world).result with
        | .ok value =>
          Execution.calls registry request (index + 1) rest
            (Object.set (Execution.written environment
              (callOf registry request index step environment world).writes) step.output value)
            (Execution.reply registry request step environment world).world
        | .error _ => [] := by
  cases outcome : (Execution.reply registry request step environment world).result with
  | ok value => simp only [Execution.calls_of_ok outcome, callOf, outcome, endingEntry]
  | error failure => simp only [Execution.calls_of_error outcome, callOf, outcome, endingEntry]

/-- Handlers that set fields in the object bound to `input` settle as those of the engine do. -/
theorem runFrom_settles (sets : ∀ kind, (handlers kind).SetsInput (registry.called kind))
    (steps : List Step) {index : Nat} {state : State} {input : Nat}
    (stands : Stands state.bindings state.memory index steps input) :
    (runFrom handlers request index steps state).Settles state
      (Execution.calls registry request index steps (state.memory.environment state.bindings)
        state.world) input := by
  induction steps generalizing index state input with
  | nil => exact {
      sets := ⟨Nat.le_refl _, fun _ _ => by
        rw [Execution.calls, Call.held, Value.withFields_nil, ite_self]
        rfl⟩
      trace := ⟨[], (List.append_nil _).symm, rfl, rfl⟩
      log := ⟨[], (List.append_nil _).symm, rfl, rfl⟩ }
  | cons step rest ih =>
      obtain ⟨opening, closing, after, run_eq, world_eq, value_eq, adds⟩ :=
        runStep_adds (sets step.kind) stands
      rw [runFrom, run_eq, calls_cons]
      cases outcome : (Execution.reply registry request step
          (state.memory.environment state.bindings) state.world).result with
      | ok value =>
          rw [outcome] at value_eq
          obtain ⟨number, output_eq, number_eq⟩ := Option.map_eq_some_iff.1 value_eq
          obtain ⟨new, made⟩ := adds.new number output_eq
          have inside : number < after.memory.count :=
            adds.closing_fields ▸ Nat.lt_succ_of_lt made
          have next : Stands (after.bind step.output number).bindings after.memory (index + 1) rest
              (if step.output = "input" then number else input) := by
            rw [State.bind, adds.bindings_eq]
            exact stands.set adds.sets (Nat.le_of_lt new) inside
          have environment_eq :
              after.memory.environment (after.bind step.output number).bindings =
                Object.set (Execution.written (state.memory.environment state.bindings)
                  (callOf registry request index step (state.memory.environment state.bindings)
                    state.world).writes) step.output value := by
            rw [State.bind, Memory.environment_set, adds.bindings_eq,
              stands.environment_eq adds.sets, number_eq]
          have settles := @ih (index + 1) (after.bind step.output number) _ next
          rw [output_eq]
          dsimp only
          rw [← environment_eq, ← world_eq]
          exact settles.cons adds stands.input_lt output_eq
      | error failure =>
          rw [outcome] at value_eq
          rw [Option.map_eq_none_iff.1 value_eq]
          exact adds.settles

end Run

/-! ## Executions from their beginning -/

/-- An execution that is about to begin is about to run its first steps. -/
theorem stands_start (steps : List Step) (input : Object) (world : World) (n : Nat) :
    Stands (start steps input world).bindings (start steps input world).memory 0 (steps.take n)
      0 where
  bound := rfl
  single := List.nodup_singleton 0
  inside number among := by
    rw [List.mem_singleton.1 among]
    exact Nat.succ_pos _
  fields position step stepAt := by
    have found : steps[position]? = some step := by
      rw [List.getElem?_take] at stepAt
      split at stepAt
      · exact stepAt
      · cases stepAt
    have inside := (List.getElem?_eq_some_iff.1 found).1
    refine ⟨?_, Nat.succ_ne_zero _, ?_⟩
    · simpa [start] using inside
    · simp [start, found]

end Sharing

namespace Engine

open Execution (Call)
open Sharing (Kept)

/-- An execution with shared objects that has run the first `n` of its steps. -/
def sharing (engine : Engine) (handlers : String → Sharing.Handler) (steps : List Step)
    (input headers : Object) (executionId : Option String) (n : Nat) : Sharing.State :=
  Sharing.runFrom handlers (engine.request executionId headers) 0 (steps.take n)
    (Sharing.start steps input (engine.identify executionId).2.scene.world)

section Sharing

variable (engine : Engine) {handlers : String → Sharing.Handler} (steps : List Step)
  (input headers : Object) (executionId : Option String)

theorem extends_sharing (n : Nat) :
    (engine.sharing handlers steps input headers executionId steps.length).Extends
      (engine.sharing handlers steps input headers executionId n) := by
  unfold sharing
  rw [List.take_length]
  exact Sharing.extends_take steps n

/-- Handlers that leave objects alone leave every entry as it was recorded. -/
theorem shown_sharing (leaves : ∀ kind, (handlers kind).LeavesObjects) (n : Nat) :
    let told := engine.sharing handlers steps input headers executionId n
    ∀ kept ∈ told.log, kept.shown told.memory = kept.recorded := by
  intro told kept member
  have begun : (Sharing.start steps input
      (engine.identify executionId).2.scene.world).IsIntact := nofun
  exact (Sharing.isIntact_runFrom leaves begun _ kept member).shown_eq

/-- Handlers that set fields in the object bound to `input` settle as those of the engine do. -/
theorem settles_sharing
    (sets : ∀ kind, (handlers kind).SetsInput (engine.registry.called kind)) (n : Nat) :
    let told := engine.sharing handlers steps input headers executionId n
    let calls := engine.calls (steps.take n) input headers executionId
    (told.trace.map Kept.recorded = calls.map Call.entry ∧
      told.trace.map (Kept.shown told.memory) = Call.settled calls) ∧
    told.log.map Kept.recorded = Entry.stream (calls.map Call.entry) ∧
      told.log.map (Kept.shown told.memory) = Entry.stream (Call.settled calls) := by
  intro told calls
  have settles := @Sharing.runFrom_settles engine.registry handlers
    (engine.request executionId headers) sets _ 0 _ 0
    (Sharing.stands_start steps input (engine.identify executionId).2.scene.world n)
  obtain ⟨-, ⟨trace, trace_eq, trace_recorded, trace_shown⟩,
    ⟨log, log_eq, log_recorded, log_shown⟩⟩ := settles
  obtain rfl : told.trace = trace := trace_eq
  obtain rfl : told.log = log := log_eq
  exact ⟨⟨trace_recorded, trace_shown⟩, log_recorded, log_shown⟩

/-- An entry of the trace is that of the call at its position, with what later calls set in its
output. -/
theorem exists_call_sharing
    (sets : ∀ kind, (handlers kind).SetsInput (engine.registry.called kind)) (n position : Nat) :
    let told := engine.sharing handlers steps input headers executionId n
    let calls := engine.calls steps input headers executionId
    ∀ kept : Kept, told.trace[position]? = some kept →
      ∃ call : Call, calls[position]? = some call ∧ kept.recorded = call.entry ∧
        kept.shown told.memory = call.shown ((calls.take n).drop (position + 1)) := by
  intro told calls kept found
  have calls_eq : engine.calls (steps.take n) input headers executionId = calls.take n :=
    Execution.calls_take steps n
  obtain ⟨⟨recorded_eq, shown_eq⟩, -⟩ :=
    engine.settles_sharing steps input headers executionId sets n
  rw [calls_eq] at recorded_eq shown_eq
  have recordedAt : (told.trace.map Kept.recorded)[position]? = some kept.recorded := by
    rw [List.getElem?_map, found, Option.map_some]
  have shownAt : (told.trace.map (Kept.shown told.memory))[position]? =
      some (kept.shown told.memory) := by
    rw [List.getElem?_map, found, Option.map_some]
  rw [recorded_eq, List.getElem?_map] at recordedAt
  obtain ⟨call, callAt, entry_eq⟩ := Option.map_eq_some_iff.1 recordedAt
  rw [shown_eq, Call.getElem?_settled, callAt] at shownAt
  refine ⟨call, ?_, entry_eq.symm, (Option.some.inj shownAt).symm⟩
  rw [List.getElem?_take] at callAt
  split at callAt
  · exact callAt
  · cases callAt

end Sharing

/-- Handlers may change what entries show, and no handler takes an entry away.  The environment of an
entry always stays as it was recorded, and all of it does when handlers leave objects alone.  When
they set fields in the object bound to `input`, only the output of a step that binds `input` changes:
at every moment it shows the fields that handlers have set in that object since, up to the next step
that binds `input`.  The result of the execution and the log of a broadcaster show the entries as
they are in the end; the frames that were pushed show them as they were recorded. -/
theorem outputs_follow_input (engine : Engine) (steps : List Step) {input headers : Value}
    {bound sent : Object} (bound_eq : Pairs.toObject input = .ok bound)
    (sent_eq : Pairs.toObject headers = .ok sent) (executionId : Option String)
    (handlers : String → Sharing.Handler) :
    let id := (engine.identify executionId).1
    let calls := engine.calls steps bound sent executionId
    let told := engine.sharing handlers steps bound sent executionId
    let ended := told steps.length
    (∀ n, ended.Extends (told n) ∧ (told n).trace ⊆ (told n).log ∧
      ∀ kept ∈ (told n).log,
        (kept.shown (told n).memory).environment = kept.recorded.environment ∧
        ((∀ kind, (handlers kind).LeavesObjects) → kept.shown (told n).memory = kept.recorded)) ∧
    ((∀ kind, (handlers kind).SetsInput (engine.registry.called kind)) →
      (∀ (n position : Nat) (kept : Kept), (told n).trace[position]? = some kept →
        ∃ call : Call, calls[position]? = some call ∧ kept.recorded = call.entry ∧
          kept.shown (told n).memory = call.shown ((calls.take n).drop (position + 1))) ∧
      (∀ result after, engine.execute steps input headers executionId = (.ok result, after) →
        result.steps = ended.trace.map (Kept.shown ended.memory)) ∧
      ∀ hub, engine.scene.sink = .broadcaster hub → ∃ last,
        (engine.execute steps input headers executionId).2.scene.sink = .broadcaster last ∧
        last.entriesOf id = hub.entriesOf id ++ ended.log.map (Kept.shown ended.memory) ∧
        ∀ socket counts frames, hub.Serves socket counts frames →
          last.Serves socket counts (frames ++
            (Broadcaster.framesOf (ended.log.map Kept.recorded)).flatMap
              (List.replicate (counts id)))) := by
  intro id calls told ended
  refine ⟨fun n => ⟨engine.extends_sharing steps bound sent executionId n,
    Sharing.trace_subset_log _ (List.Subset.refl _), fun kept member => ⟨rfl, fun leaves =>
      engine.shown_sharing steps bound sent executionId leaves n kept member⟩⟩, fun sets => ?_⟩
  obtain ⟨finished, logged⟩ := engine.settled_calls steps bound_eq sent_eq executionId
  obtain ⟨⟨-, shown_eq⟩, log_recorded, log_shown⟩ :=
    engine.settles_sharing steps bound sent executionId sets steps.length
  rw [List.take_length] at shown_eq log_recorded log_shown
  refine ⟨fun n position =>
    engine.exists_call_sharing steps bound sent executionId sets n position, ?_, ?_⟩
  · intro result after returned
    rw [shown_eq]
    exact finished result after returned
  · intro hub sink_eq
    rw [log_shown, log_recorded]
    exact logged hub sink_eq

/-! ## One field that is set -/

/-- A broadcaster that one socket watches. -/
def watchedHub : Broadcaster := Broadcaster.add {} "first" 0

/-- An engine that knows a kind of step whose handler sets a field in the object bound to `input`. -/
def markingEngine : Engine where
  registry := Registry.standard.register "mark" fun _ _ _ world =>
    { result := .ok .null, world, writes := [("seen", .bool true)] }
  scene := { sink := .broadcaster watchedHub }

/-- A step that binds the input of its execution to `input`. -/
def collectStep : Step := ⟨"step1", "input", [], "input"⟩

/-- A step that sets a field in the object bound to `input`. -/
def markStep : Step := ⟨"step2", "mark", [], "marked"⟩

/-- The handlers of that engine in an execution with shared objects. -/
def markingHandlers (kind : String) : Sharing.Handler :=
  .ofPlain (markingEngine.registry.called kind)

/-- The entry of a step that binds `input` shows the field that the next handler sets, although it
was recorded, and pushed, without that field. -/
theorem outputs_follow_input_marked :
    ∃ result after last recorded,
      markingEngine.execute [collectStep, markStep] (.obj []) .null (some "first") =
        (.ok result, after) ∧
      after.scene.sink = .broadcaster last ∧
      result.steps.map Entry.output = [.obj [("seen", .bool true)], .null] ∧
      (last.entriesOf "first").map Entry.output =
        [.null, .obj [("seen", .bool true)], .null, .null] ∧
      recorded.map Entry.output = [.null, .obj [], .null, .null] ∧
      last.received 0 = Broadcaster.framesOf recorded := by
  have bound_eq : Pairs.toObject (.obj []) = .ok [] := rfl
  have sent_eq : Pairs.toObject .null = .ok [] := rfl
  obtain ⟨-, settled⟩ := outputs_follow_input markingEngine [collectStep, markStep] bound_eq sent_eq
    (some "first") markingHandlers
  obtain ⟨-, shown, logged⟩ := settled fun kind => Sharing.Handler.setsInput_ofPlain _
  obtain ⟨result, after, returned⟩ : ∃ result after,
      markingEngine.execute [collectStep, markStep] (.obj []) .null (some "first") =
        (.ok result, after) :=
    ⟨_, _, by with_unfolding_all rfl⟩
  obtain ⟨last, last_eq, log_eq, serves⟩ := logged watchedHub rfl
  have served : watchedHub.Serves 0 (fun id => (watchedHub.watchersOf id).count 0) [] :=
    ⟨by simp [watchedHub, Broadcaster.add, Broadcaster.appendUnder], fun _ => rfl, fun _ => rfl, rfl⟩
  refine ⟨result, after, last, _, returned, ?_, ?_, ?_, ?_,
    (serves 0 _ _ served).received_eq.trans (List.flatMap_singleton' _)⟩
  · rw [← last_eq, returned]
  · rw [shown result after returned]
    with_unfolding_all rfl
  · have log_eq : last.entriesOf "first" = _ := log_eq
    rw [log_eq]
    with_unfolding_all rfl
  · with_unfolding_all rfl

/-- The trace that the first steps of an execution left is not always a part of the trace of the
whole execution. -/
theorem trace_not_always_kept :
    ¬ ∀ (engine : Engine) (first second : List Step) (input headers : Value)
      (executionId : Option String) (early whole : Result) (there after : Engine),
      engine.execute first input headers executionId = (.ok early, there) →
      engine.execute (first ++ second) input headers executionId = (.ok whole, after) →
      early.steps <+: whole.steps := by
  intro kept
  obtain ⟨early, there, began⟩ : ∃ early there,
      markingEngine.execute [collectStep] (.obj []) .null (some "first") = (.ok early, there) :=
    ⟨_, _, by with_unfolding_all rfl⟩
  obtain ⟨whole, after, ended⟩ : ∃ whole after,
      markingEngine.execute [collectStep, markStep] (.obj []) .null (some "first") =
        (.ok whole, after) :=
    ⟨_, _, by with_unfolding_all rfl⟩
  have early_outputs : (markingEngine.execute [collectStep] (.obj []) .null (some "first")).1.map
      (·.steps.map Entry.output) = .ok [.obj []] := by
    with_unfolding_all rfl
  have whole_outputs : (markingEngine.execute [collectStep, markStep] (.obj []) .null
      (some "first")).1.map (·.steps.map Entry.output) =
        .ok [.obj [("seen", .bool true)], .null] := by
    with_unfolding_all rfl
  rw [began] at early_outputs
  rw [ended] at whole_outputs
  have outputs := (kept markingEngine [collectStep] [markStep] (.obj []) .null (some "first") early
    whole there after began ended).map Entry.output
  have early_eq : early.steps.map Entry.output = _ := Except.ok.inj early_outputs
  have whole_eq : whole.steps.map Entry.output = _ := Except.ok.inj whole_outputs
  rw [early_eq, whole_eq] at outputs
  simp at outputs

end Engine

end Workflow
