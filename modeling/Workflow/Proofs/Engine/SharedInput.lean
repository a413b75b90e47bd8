import Workflow.Proofs.Engine.LogStream
import Workflow.Proofs.Value.Fields

/-!
# The object bound to `input`

A handler may set fields in the object that is bound to `input`.  An entry whose output is that
object shows them wherever it is kept, up to the step that binds `input` anew.  Everything else in an
entry stays as it was recorded, and what was pushed of it stays as it was pushed.
-/

namespace Workflow

/-- A value once fields have been set in it; only an object has any. -/
def Value.withFields : Value → Object → Value
  | .obj fields, writes => .obj (Object.merge fields writes)
  | value, _ => value

/-- An entry once fields have been set in its output. -/
def Entry.withFields (entry : Entry) (writes : Object) : Entry :=
  { entry with output := entry.output.withFields writes }

@[simp]
theorem Value.withFields_nil (value : Value) : value.withFields [] = value := by
  cases value <;> rfl

theorem Value.withFields_append (value : Value) (writes later : Object) :
    value.withFields (writes ++ later) = (value.withFields writes).withFields later := by
  cases value with
  | obj fields => simp only [withFields, Object.merge, List.foldl_append]
  | _ => rfl

@[simp]
theorem Entry.withFields_nil (entry : Entry) : entry.withFields [] = entry := by
  simp [withFields]

theorem Entry.withFields_append (entry : Entry) (writes later : Object) :
    entry.withFields (writes ++ later) = (entry.withFields writes).withFields later := by
  simp only [withFields, Value.withFields_append]

/-! ## Calls -/

namespace Execution

/-- A call of the handler of a step: the fields that it set in the object bound to `input`, and the
entry that was recorded when it had replied. -/
structure Call where
  step : Step
  writes : Object
  entry : Entry

/-- The fields that calls set in the object that is bound to `input` when they begin, up to the call
that binds `input` anew. -/
def Call.held : List Call → Object
  | [] => []
  | call :: later => call.writes ++ if call.step.output = "input" then [] else held later

/-- The entry of a call as it is after later calls. -/
def Call.shown (call : Call) (later : List Call) : Entry :=
  if call.step.output = "input" then call.entry.withFields (held later) else call.entry

/-- The entries of calls as they are after the last of them. -/
def Call.settled : List Call → List Entry
  | [] => []
  | call :: later => call.shown later :: settled later

theorem Call.getElem?_settled (calls : List Call) (position : Nat) :
    (settled calls)[position]? =
      calls[position]?.map fun call => call.shown (calls.drop (position + 1)) := by
  induction calls generalizing position with
  | nil => rfl
  | cons call later ih =>
      cases position with
      | zero => simp [settled]
      | succ position => simpa [settled] using ih position

/-- An environment once fields have been set in the object bound to `input`. -/
def written (environment writes : Object) : Object :=
  if writes.isEmpty then environment else Progress.writeInput environment writes

/-- The calls of an execution that runs steps from a position on, up to the first failure. -/
def calls (registry : Registry Handler) (request : Request) :
    Nat → List Step → Object → World → List Call
  | _, [], _, _ => []
  | index, step :: rest, environment, world =>
    let reply := reply registry request step environment world
    match reply.result with
    | .ok value =>
      ⟨step, reply.writes, finishedEntry index step environment world.now value⟩ ::
        calls registry request (index + 1) rest
          (Object.set (written environment reply.writes) step.output value) reply.world
    | .error failure =>
      [⟨step, reply.writes, failedEntry index step environment world.now failure.report⟩]

section Calls

variable {registry : Registry Handler} {request : Request} {index : Nat} {step : Step}
  {rest : List Step} {environment : Object} {world : World}

theorem calls_of_ok {value : Value}
    (ok : (reply registry request step environment world).result = .ok value) :
    calls registry request index (step :: rest) environment world =
      ⟨step, (reply registry request step environment world).writes,
          finishedEntry index step environment world.now value⟩ ::
        calls registry request (index + 1) rest
          (Object.set (written environment (reply registry request step environment world).writes)
            step.output value)
          (reply registry request step environment world).world := by
  simp only [calls, ok]

theorem calls_of_error {failure : Failure}
    (failed : (reply registry request step environment world).result = .error failure) :
    calls registry request index (step :: rest) environment world =
      [⟨step, (reply registry request step environment world).writes,
        failedEntry index step environment world.now failure.report⟩] := by
  simp only [calls, failed]

/-- The calls of the first steps of an execution are the first of its calls. -/
theorem calls_take (steps : List Step) (n : Nat) :
    calls registry request index (steps.take n) environment world =
      (calls registry request index steps environment world).take n := by
  induction steps generalizing index environment world n with
  | nil => simp [calls]
  | cons step rest ih =>
      cases n with
      | zero => simp [calls]
      | succ n =>
          rw [List.take_succ_cons]
          cases outcome : (reply registry request step environment world).result with
          | ok value => rw [calls_of_ok outcome, calls_of_ok outcome, ih, List.take_succ_cons]
          | error failure => rw [calls_of_error outcome, calls_of_error outcome, List.take_succ_cons,
              List.take_nil]

end Calls

end Execution

/-! ## Entries of a trace -/

namespace Progress

open Execution (Call calls written)

/-- The entries of a progress once fields have been set in the object bound to `input`. -/
def shown (progress : Progress) (writes : Object) : List Entry :=
  progress.entries.mapIdx fun position entry =>
    if progress.holders.contains position then entry.withFields writes else entry

/-- The entries before a position are those of finished steps, in order, and at most one of them
holds the object bound to `input`. -/
structure Orderly (progress : Progress) (index : Nat) : Prop where
  length_eq : progress.entries.length = index
  finished : ∀ (position : Nat) (entry : Entry), progress.entries[position]? = some entry →
    Broadcaster.isFinishOf position entry = true
  held : progress.holders = [] ∨ ∃ position entry, progress.holders = [position] ∧
    progress.entries[position]? = some entry ∧
    entry.output = Value.field progress.environment "input"

variable {progress : Progress} {index : Nat}

@[simp]
theorem shown_nil (progress : Progress) : progress.shown [] = progress.entries := by
  apply List.ext_getElem?
  simp [shown]

theorem environment_write (progress : Progress) (writes : Object) :
    (progress.write writes).environment = written progress.environment writes := by
  unfold write written
  split <;> rfl

theorem holders_write (progress : Progress) (writes : Object) :
    (progress.write writes).holders = progress.holders := by
  unfold write
  split <;> rfl

theorem field_written (environment writes : Object) :
    Value.field (written environment writes) "input" =
      (Value.field environment "input").withFields writes := by
  unfold written
  split
  · rename_i none
    rw [List.isEmpty_iff.1 none, Value.withFields_nil]
  · unfold writeInput
    cases bound : Value.field environment "input" with
    | obj fields => simp [Value.field_set, Value.withFields]
    | _ => simpa [Value.withFields] using bound

/-- Setting fields in the object bound to `input` shows in the entries that hold it. -/
theorem Orderly.entries_write (orderly : progress.Orderly index) (writes : Object) :
    (progress.write writes).entries = progress.shown writes := by
  by_cases none : writes.isEmpty
  · rw [write, if_pos none, List.isEmpty_iff.1 none, shown_nil]
  · have field_eq := field_written progress.environment writes
    rw [written, if_neg none] at field_eq
    rw [write, if_neg none, amend, shown]
    simp only [field_eq]
    apply List.ext_getElem?
    intro position
    simp only [List.getElem?_mapIdx]
    rcases orderly.held with empty | ⟨holder, entry, holders_eq, entryAt, output_eq⟩
    · simp [empty]
    · rw [holders_eq]
      by_cases here : position = holder
      · subst here
        simp [entryAt, Entry.withFields, output_eq]
      · simp [here]

theorem shown_of_no_holder (empty : progress.holders = []) (writes : Object) :
    progress.shown writes = progress.entries := by
  apply List.ext_getElem?
  simp [shown, empty]

theorem shown_of_holder {holder : Nat} {entry : Entry} (holders_eq : progress.holders = [holder])
    (entryAt : progress.entries[holder]? = some entry) (writes : Object) :
    progress.shown writes =
      progress.entries.take holder ++ entry.withFields writes :: progress.entries.drop (holder + 1) := by
  obtain ⟨inside, entry_eq⟩ := List.getElem?_eq_some_iff.1 entryAt
  have replaced : progress.shown writes = progress.entries.set holder (entry.withFields writes) := by
    apply List.ext_getElem?
    intro position
    rw [shown, List.getElem?_mapIdx, holders_eq, List.getElem?_set]
    by_cases here : holder = position
    · subst here
      simp [entry_eq, inside]
    · simp [here, Ne.symm here]
  rw [replaced, List.set_eq_take_append_cons_drop, if_pos inside]

/-- Fields set after others show in the same entries. -/
theorem shown_append (progress : Progress) (writes later : Object) :
    progress.shown (writes ++ later) =
      (progress.shown writes).mapIdx fun position entry =>
        if progress.holders.contains position then entry.withFields later else entry := by
  apply List.ext_getElem?
  intro position
  simp only [shown, List.getElem?_mapIdx, Option.map_map]
  congr 1
  funext entry
  by_cases holds : progress.holders.contains position
  · simp only [Function.comp_apply, if_pos holds, Entry.withFields_append]
  · simp only [Function.comp_apply, if_neg holds]

theorem Orderly.shown_write (orderly : progress.Orderly index) (writes later : Object) :
    (progress.write writes).shown later = progress.shown (writes ++ later) := by
  rw [shown_append, shown, holders_write, orderly.entries_write]

/-- A step that binds `input` anew leaves the entries before it as they are. -/
theorem shown_bind_input (progress : Progress) (value : Value) (entry : Entry) (later : Object) :
    (progress.bind "input" value entry).shown later =
      progress.entries ++ [entry.withFields later] := by
  simp only [shown, bind, if_true, List.mapIdx_append, List.mapIdx_singleton, Nat.zero_add]
  congr 1
  · apply List.ext_getElem
    · simp
    · intro position _ before
      simp [Nat.ne_of_lt before]
  · simp

/-- A step that binds another variable leaves the object bound to `input` with its holder. -/
theorem Orderly.shown_bind (orderly : progress.Orderly index) {output : String}
    (other : output ≠ "input") (value : Value) (entry : Entry) (later : Object) :
    (progress.bind output value entry).shown later = progress.shown later ++ [entry] := by
  have old : progress.holders.contains progress.entries.length = false := by
    rcases orderly.held with empty | ⟨holder, held, holders_eq, heldAt, -⟩
    · simp [empty]
    · have inside := (List.getElem?_eq_some_iff.1 heldAt).1
      simp [holders_eq, Nat.ne_of_gt inside]
  simp only [shown, bind, if_neg other, List.mapIdx_append, List.mapIdx_singleton, Nat.zero_add, old]
  rfl

/-- A progress stays orderly when the handler of the next step sets fields in the object bound to
`input`. -/
theorem Orderly.write (orderly : progress.Orderly index) (writes : Object) :
    (progress.write writes).Orderly index := by
  have entryAt (position : Nat) : (progress.write writes).entries[position]? =
      progress.entries[position]?.map fun entry =>
        if progress.holders.contains position then entry.withFields writes else entry := by
    rw [orderly.entries_write, shown, List.getElem?_mapIdx]
  constructor
  · rw [orderly.entries_write, shown, List.length_mapIdx, orderly.length_eq]
  · intro position entry found
    rw [entryAt] at found
    obtain ⟨before, beforeAt, rfl⟩ := Option.map_eq_some_iff.1 found
    have finish := orderly.finished position before beforeAt
    split <;> exact finish
  · rw [holders_write, environment_write, field_written]
    rcases orderly.held with empty | ⟨holder, entry, holders_eq, heldAt, output_eq⟩
    · exact .inl empty
    · refine .inr ⟨holder, entry.withFields writes, holders_eq, ?_, ?_⟩
      · rw [entryAt, heldAt, holders_eq]
        simp
      · rw [Entry.withFields, output_eq]

theorem Orderly.bind (orderly : progress.Orderly index) (output : String) (value : Value)
    {entry : Entry} (finish : Broadcaster.isFinishOf index entry = true)
    (output_eq : entry.output = value) : (progress.bind output value entry).Orderly (index + 1) := by
  have last : (progress.entries ++ [entry])[index]? = some entry := by
    rw [← orderly.length_eq, List.getElem?_concat_length]
  constructor
  · simp [Progress.bind, orderly.length_eq]
  · intro position found foundAt
    simp only [Progress.bind] at foundAt
    rcases Nat.lt_or_ge position index with before | after
    · rw [List.getElem?_append_left (by rw [orderly.length_eq]; exact before)] at foundAt
      exact orderly.finished position found foundAt
    · have inside := (List.getElem?_eq_some_iff.1 foundAt).1
      rw [List.length_append, orderly.length_eq, List.length_singleton] at inside
      obtain rfl : position = index := by omega
      rw [last] at foundAt
      rwa [← Option.some.inj foundAt]
  · simp only [Progress.bind]
    by_cases anew : output = "input"
    · subst anew
      refine .inr ⟨index, entry, by simp [orderly.length_eq], last, ?_⟩
      rw [Value.field_set, if_pos rfl, output_eq]
    · rw [if_neg anew, Value.field_set, if_neg (by simpa using anew)]
      rcases orderly.held with empty | ⟨holder, held, holders_eq, heldAt, held_eq⟩
      · exact .inl empty
      · refine .inr ⟨holder, held, holders_eq, ?_, held_eq⟩
        rw [List.getElem?_append_left (List.getElem?_eq_some_iff.1 heldAt).1, heldAt]

end Progress

namespace Execution

variable {registry : Registry Handler} {request : Request} {index : Nat} {step : Step}
  {progress : Progress} {scene : Scene}

theorem isFinishOf_finishedEntry (index : Nat) (step : Step) (environment : Object) (now : Moment)
    (value : Value) :
    Broadcaster.isFinishOf index (finishedEntry index step environment now value) = true := by
  simp [Broadcaster.isFinishOf, finishedEntry]

/-- The sink after a step: it is told of the beginning, shows what the handler set in the object bound
to `input`, and is told of the end. -/
def tellStep (request : Request) (index : Nat) (step : Step) (progress : Progress) (scene : Scene)
    (writes : Object) (ending : Entry) : Sink :=
  ((amendSink request (progress.write writes) writes
    (scene.sink.record request.executionId
      (progress.entry index step .started scene.world.now)).2).record request.executionId ending).2

/-- The entry that tells of the end of a step whose handler has replied, and how the step ended. -/
def closing (index : Nat) (step : Step) (progress : Progress) (now : Moment) (reply : Reply) :
    Entry × Except (Progress × Report) Progress :=
  let after := progress.write reply.writes
  match reply.result with
  | .ok value =>
    let finished := finishedEntry index step progress.environment now value
    (finished, .ok (after.bind step.output value finished))
  | .error failure =>
    let failed := failedEntry index step progress.environment now failure.report
    (failed, .error ({ after with entries := after.entries ++ [failed] }, failure.report))

theorem runStep_eq (registry : Registry Handler) (request : Request) (index : Nat) (step : Step)
    (progress : Progress) (scene : Scene) :
    runStep registry request index step progress scene =
      let reply := reply registry request step progress.environment scene.world
      let closing := closing index step progress scene.world.now reply
      (closing.2, {
        world := reply.world
        sink := tellStep request index step progress scene reply.writes closing.1 }) := by
  simp only [runStep, closing, Scene.record]
  cases (reply registry request step progress.environment scene.world).result <;> rfl

/-- The entries of a run from a position on: those before it show the fields set in the object bound
to `input`, and those of the calls are settled. -/
theorem entries_runFrom (orderly : progress.Orderly index) (steps : List Step) :
    (runFrom registry request index steps progress scene).1.1.entries =
      progress.shown (Call.held
        (calls registry request index steps progress.environment scene.world)) ++
      Call.settled (calls registry request index steps progress.environment scene.world) := by
  induction steps generalizing index progress scene with
  | nil => simp [runFrom, calls, Call.held, Call.settled]
  | cons step rest ih =>
      rw [runFrom]
      cases outcome : (reply registry request step progress.environment scene.world).result with
      | ok value =>
          rw [runStep_eq, calls_of_ok outcome]
          simp only [closing, outcome]
          generalize (reply registry request step progress.environment scene.world).writes = writes
          have next := (orderly.write writes).bind step.output value
            (isFinishOf_finishedEntry index step progress.environment scene.world.now value) rfl
          rw [ih next]
          -- A step that binds `input` anew settles what the entries before it show.
          by_cases anew : step.output = "input"
          · rw [anew, Progress.shown_bind_input, orderly.entries_write]
            simp [Progress.bind, Progress.environment_write, Call.held, Call.settled, Call.shown, anew]
          · rw [(orderly.write writes).shown_bind anew, orderly.shown_write]
            simp [Progress.bind, Progress.environment_write, Call.held, Call.settled, Call.shown, anew]
      | error failure =>
          rw [runStep_eq, calls_of_error outcome]
          simp only [closing, outcome]
          generalize (reply registry request step progress.environment scene.world).writes = writes
          simp only [Call.held, Call.settled, Call.shown, ite_self, List.append_nil, Entry.withFields_nil,
            orderly.entries_write]

/-! ## What the sink shows -/

/-- What a handler set in the object bound to `input` amends what a broadcaster keeps. -/
theorem exists_amendSink (request : Request) (progress : Progress) (writes : Object)
    (hub : Broadcaster) :
    ∃ shown, amendSink request progress writes (.broadcaster hub) = .broadcaster shown ∧
      shown.Amends hub := by
  unfold amendSink
  split
  · exact ⟨hub, rfl, .refl hub⟩
  · dsimp only
    generalize progress.holders = positions
    induction positions generalizing hub with
    | nil => exact ⟨hub, rfl, .refl hub⟩
    | cons position rest ih =>
        obtain ⟨shown, shown_eq, amends⟩ := ih (hub.amend request.executionId position
          (Value.field progress.environment "input"))
        exact ⟨shown, shown_eq, amends.trans (Broadcaster.amends_amend _ _ _ _)⟩

theorem isFinishOf_stream {entries : List Entry} {index : Int}
    (elsewhere : ∀ entry ∈ entries, Broadcaster.isFinishOf index entry = false) :
    ∀ later ∈ Entry.stream entries, Broadcaster.isFinishOf index later = false := by
  intro later member
  obtain ⟨entry, among, which⟩ := List.mem_flatMap.1 member
  rcases List.mem_pair.1 which with rfl | rfl
  · simp [Broadcaster.isFinishOf, Entry.opening]
  · exact elsewhere later among

/-- A broadcaster that keeps the entries of a progress, each after the one that tells of its
beginning, shows what the handler of the next step sets in the object bound to `input`. -/
theorem amendSink_broadcaster (orderly : progress.Orderly index) (writes : Object)
    {hub : Broadcaster} {before : List Entry} {opening : Entry} (started : opening.phase = .started)
    (kept : hub.entriesOf request.executionId =
      before ++ Entry.stream progress.entries ++ [opening]) :
    ∃ shown, amendSink request (progress.write writes) writes (.broadcaster hub) =
        .broadcaster shown ∧
      shown.entriesOf request.executionId =
        before ++ Entry.stream (progress.shown writes) ++ [opening] ∧
      ∀ socket counts frames, hub.Serves socket counts frames →
        shown.Serves socket counts frames := by
  by_cases none : writes.isEmpty
  · refine ⟨hub, if_pos none, ?_, fun _ _ _ serves => serves⟩
    rw [kept, List.isEmpty_iff.1 none, Progress.shown_nil]
  · simp only [amendSink, if_neg none, Progress.holders_write, Progress.environment_write,
      Progress.field_written]
    rcases orderly.held with empty | ⟨holder, entry, holders_eq, entryAt, output_eq⟩
    · refine ⟨hub, by rw [empty]; rfl, ?_, fun _ _ _ serves => serves⟩
      rw [kept, Progress.shown_of_no_holder empty]
    · rw [holders_eq, ← output_eq]
      refine ⟨_, rfl, ?_, fun _ _ _ serves => serves.amends (Broadcaster.amends_amend _ _ _ _)⟩
      obtain ⟨inside, entry_eq⟩ := List.getElem?_eq_some_iff.1 entryAt
      have later : ∀ entry ∈ progress.entries.drop (holder + 1),
          Broadcaster.isFinishOf holder entry = false := by
        intro entry member
        obtain ⟨offset, found⟩ := List.getElem?_of_mem member
        rw [List.getElem?_drop] at found
        have finish := orderly.finished _ entry found
        simp only [Broadcaster.isFinishOf, decide_eq_true_eq] at finish
        simp only [Broadcaster.isFinishOf, decide_eq_false_iff_not, finish.1]
        omega
      -- The amended entry is the last in the log that tells of the end of the holder's step.
      have split_eq : progress.entries =
          progress.entries.take holder ++ entry :: progress.entries.drop (holder + 1) := by
        rw [← entry_eq, List.getElem_cons_drop, List.take_append_drop]
      have kept_eq : before ++ Entry.stream progress.entries ++ [opening] =
          (before ++ Entry.stream (progress.entries.take holder) ++ [entry.opening]) ++
            entry :: (Entry.stream (progress.entries.drop (holder + 1)) ++ [opening]) := by
        conv_lhs => rw [split_eq]
        simp [Entry.stream]
      rw [Broadcaster.entriesOf_amend, if_pos rfl, kept, kept_eq, Broadcaster.amendLast_append
        (orderly.finished holder entry entryAt), Progress.shown_of_holder holders_eq entryAt]
      · simp [Entry.stream, Entry.withFields]
        rfl
      · intro told member
        rcases List.mem_append.1 member with among | last
        · exact isFinishOf_stream later told among
        · rw [List.mem_singleton.1 last]
          simp [Broadcaster.isFinishOf, started]

/-- A step tells a broadcaster of its beginning and of its end, and what the handler set in the object
bound to `input` shows in the entries between. -/
theorem tellStep_broadcaster (orderly : progress.Orderly index) (writes : Object) {ending : Entry}
    (opens : ending.opening = progress.entry index step .started scene.world.now)
    {hub : Broadcaster} {before : List Entry} (sink_eq : scene.sink = .broadcaster hub)
    (kept : hub.entriesOf request.executionId = before ++ Entry.stream progress.entries) :
    ∃ told, tellStep request index step progress scene writes ending = .broadcaster told ∧
      told.entriesOf request.executionId =
        before ++ Entry.stream (progress.shown writes ++ [ending]) ∧
      ∀ socket counts frames, hub.Serves socket counts frames →
        told.Serves socket counts (frames ++
          (Broadcaster.framesOf (Entry.stream [ending])).flatMap
            (List.replicate (counts request.executionId))) := by
  let opened := (hub.record request.executionId ending.opening).2
  have opened_kept : opened.entriesOf request.executionId =
      before ++ Entry.stream progress.entries ++ [ending.opening] := by
    rw [Broadcaster.entriesOf_record, if_pos rfl, kept]
  obtain ⟨shown, amended, shown_kept, shown_serves⟩ :=
    amendSink_broadcaster orderly writes rfl opened_kept
  refine ⟨(shown.record request.executionId ending).2, ?_, ?_, ?_⟩
  · have recorded : (scene.sink.record request.executionId
        (progress.entry index step .started scene.world.now)).2 = .broadcaster opened := by
      rw [sink_eq, ← opens]
      rfl
    rw [tellStep, recorded, amended]
    rfl
  · rw [Broadcaster.entriesOf_record, if_pos rfl, shown_kept]
    simp [Entry.stream]
  · intro socket counts frames serves
    have pushed := (shown_serves _ _ _ (serves.record request.executionId ending.opening)).record
      request.executionId ending
    rwa [List.append_assoc, ← List.flatMap_append, ← Broadcaster.framesOf_append] at pushed

/-- A run tells a broadcaster of its entries: the log shows them as they are in the end, and the frames
that were pushed show them as they were recorded. -/
theorem broadcaster_runFrom (orderly : progress.Orderly index) (steps : List Step)
    {hub : Broadcaster} {before : List Entry} (sink_eq : scene.sink = .broadcaster hub)
    (kept : hub.entriesOf request.executionId = before ++ Entry.stream progress.entries) :
    ∃ last, (runFrom registry request index steps progress scene).2.sink = .broadcaster last ∧
      last.entriesOf request.executionId = before ++
        Entry.stream (runFrom registry request index steps progress scene).1.1.entries ∧
      ∀ socket counts frames, hub.Serves socket counts frames →
        last.Serves socket counts (frames ++
          (Broadcaster.framesOf (Entry.stream ((calls registry request index steps
            progress.environment scene.world).map Call.entry))).flatMap
              (List.replicate (counts request.executionId))) := by
  induction steps generalizing index progress scene hub with
  | nil => exact ⟨hub, sink_eq, kept, by simp [calls, Entry.stream, Broadcaster.framesOf]⟩
  | cons step rest ih =>
      rw [runFrom]
      cases outcome : (reply registry request step progress.environment scene.world).result with
      | ok value =>
          rw [runStep_eq, calls_of_ok outcome]
          simp only [closing, outcome]
          generalize (reply registry request step progress.environment scene.world).writes = writes
          let finished := finishedEntry index step progress.environment scene.world.now value
          have opens : finished.opening =
              progress.entry index step .started scene.world.now := rfl
          obtain ⟨told, told_eq, told_kept, told_serves⟩ :=
            tellStep_broadcaster orderly writes opens sink_eq kept
          rw [← orderly.entries_write] at told_kept
          have bound := (orderly.write writes).bind step.output value
            (isFinishOf_finishedEntry index step progress.environment scene.world.now value) rfl
          let told_scene : Scene :=
            ⟨(reply registry request step progress.environment scene.world).world,
              tellStep request index step progress scene writes finished⟩
          have told_scene_eq : told_scene.sink = .broadcaster told := told_eq
          obtain ⟨last, last_eq, last_kept, last_serves⟩ := ih bound told_scene_eq told_kept
          refine ⟨last, last_eq, last_kept, ?_⟩
          intro socket counts frames serves
          have pushed := last_serves _ _ _ (told_serves _ _ _ serves)
          rw [List.append_assoc, ← List.flatMap_append, ← Broadcaster.framesOf_append] at pushed
          simpa [Progress.bind, Progress.environment_write, Entry.stream] using pushed
      | error failure =>
          rw [runStep_eq, calls_of_error outcome]
          simp only [closing, outcome]
          generalize (reply registry request step progress.environment scene.world).writes = writes
          rw [orderly.entries_write]
          exact tellStep_broadcaster orderly writes rfl sink_eq kept

end Execution

/-! ## Executions -/

namespace Engine

open Execution (Call)

/-- The calls of handlers in an execution. -/
def calls (engine : Engine) (steps : List Step) (input headers : Object)
    (executionId : Option String) : List Call :=
  Execution.calls engine.registry (engine.request executionId headers) 0 steps
    (Execution.start input).environment (engine.identify executionId).2.scene.world

/-- Each call of a handler adds one entry to the trace of an execution.  Of what was recorded only
the output of a step that binds `input` changes: it shows the fields that later handlers set in the
object bound to `input`, up to the next step that binds it, both in the result and in the log of a
broadcaster.  The frames that were pushed show every entry as it was recorded. -/
theorem settled_calls (engine : Engine) (steps : List Step) {input headers : Value}
    {bound sent : Object} (bound_eq : Pairs.toObject input = .ok bound)
    (sent_eq : Pairs.toObject headers = .ok sent) (executionId : Option String) :
    let id := (engine.identify executionId).1
    let calls := engine.calls steps bound sent executionId
    (∀ result after, engine.execute steps input headers executionId = (.ok result, after) →
      result.steps = Call.settled calls) ∧
    ∀ hub, engine.scene.sink = .broadcaster hub → ∃ last,
      (engine.execute steps input headers executionId).2.scene.sink = .broadcaster last ∧
      last.entriesOf id = hub.entriesOf id ++ Entry.stream (Call.settled calls) ∧
      ∀ socket counts frames, hub.Serves socket counts frames →
        last.Serves socket counts (frames ++
          (Broadcaster.framesOf (Entry.stream (calls.map Call.entry))).flatMap
            (List.replicate (counts id))) := by
  intro id calls
  have orderly : (Execution.start bound).Orderly 0 := ⟨rfl, by simp [Execution.start], .inl rfl⟩
  have entries_eq : (Execution.runFrom engine.registry (engine.request executionId sent) 0 steps
      (Execution.start bound) (engine.identify executionId).2.scene).1.1.entries =
        Call.settled calls := by
    rw [Execution.entries_runFrom orderly]
    rfl
  constructor
  · intro result after returned
    rw [execute_of_run bound_eq sent_eq rfl] at returned
    have ended := Result.conclude_eq_ok_iff.1 (congrArg Prod.fst returned)
    rw [(Result.eq_of_ofEnding ended).2, entries_eq]
  · intro hub sink_eq
    have identified : (engine.identify executionId).2.scene.sink = .broadcaster hub := by
      obtain ⟨issued, engine_eq⟩ := engine.exists_identify_eq executionId
      rw [engine_eq, ← sink_eq]
    have unrecorded : hub.entriesOf (engine.request executionId sent).executionId =
        hub.entriesOf id ++ Entry.stream (Execution.start bound).entries :=
      (List.append_nil _).symm
    obtain ⟨last, last_eq, kept, serves⟩ :=
      @Execution.broadcaster_runFrom engine.registry _ _ _ _ orderly steps hub _ identified
        unrecorded
    rw [entries_eq] at kept
    refine ⟨last, ?_, kept, serves⟩
    rw [execute_of_run bound_eq sent_eq rfl]
    exact last_eq

end Engine

end Workflow
