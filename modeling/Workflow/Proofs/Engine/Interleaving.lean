import Workflow.Proofs.Engine.Composition
import Workflow.Proofs.Handler.Local

/-!
# Executions that take turns

Two executions act on one store and take turns step by step, each with identifiers of its own.  When
their steps name no collection in common, each of them comes to what it comes to alone: at every point
of every schedule it has the progress it would have after as many turns without the other, and the
store is, within its collections, the one that it would have left.
-/

namespace Workflow

open Execution (Stop reply runFrom runStep)

/-! ## Turns -/

/-- The scene with another number of identifiers issued. -/
def Scene.supplied (scene : Scene) (issued : Nat) : Scene :=
  { scene with world := { scene.world with issued } }

/-- An execution that has come to a position.  It counts the identifiers that it draws itself. -/
structure Party where
  request : Request
  issued : Nat
  index : Nat
  rest : List Step
  progress : Progress
  stop : Option Stop := none

namespace Party

/-- No step is left, or one has failed. -/
def HasEnded (party : Party) : Prop := party.rest = [] ∨ party.stop.isSome

/-- Where a party is after a step, given how the step ended and the identifiers issued by then. -/
def after (party : Party) (step : Step) (rest : List Step) (issued : Nat) :
    Except (Progress × Report) Progress → Party
  | .ok progress => { party with issued, index := party.index + 1, rest, progress }
  | .error (progress, report) =>
    { party with issued, progress, stop := some ⟨party.index, step.id, report⟩ }

/-- Run the next step in a scene, with the party's own supply of identifiers. -/
def turn (registry : Registry Handler) (party : Party) (scene : Scene) : Party × Scene :=
  match party.stop, party.rest with
  | none, step :: rest =>
    let (outcome, scene) := runStep registry party.request party.index step party.progress
      (scene.supplied party.issued)
    (party.after step rest scene.world.issued outcome, scene)
  | _, _ => (party, scene)

/-- Take turns alone. -/
def alone (registry : Registry Handler) : Nat → Party → Scene → Party × Scene
  | 0, party, scene => (party, scene)
  | turns + 1, party, scene =>
    let (party, scene) := party.turn registry scene
    alone registry turns party scene

/-- What the execution of a party has come to. -/
def result (party : Party) : Except ExecutionFailure Result :=
  Result.conclude party.request.executionId party.progress party.stop

end Party

/-- Parties take turns in a scene as scheduled. -/
def interleave {ι : Type} [DecidableEq ι] (registry : Registry Handler) :
    List ι → (ι → Party) → Scene → (ι → Party) × Scene
  | [], parties, scene => (parties, scene)
  | side :: schedule, parties, scene =>
    let (party, scene) := (parties side).turn registry scene
    interleave registry schedule (Function.update parties side party) scene

/-! ## Steps are local to their collections -/

/-- A step of a built-in kind names a collection. -/
def Step.Names (step : Step) (collection : String) : Prop :=
  ∃ kind : Kind, kind.name = step.kind ∧ kind.collection step.fields = .str collection

theorem Kind.ofName?_name (kind : Kind) : Kind.ofName? kind.name = some kind := by
  cases kind <;> rfl

theorem Step.names_iff {step : Step} {kind : Kind} (same : kind.name = step.kind)
    {collection : String} :
    step.Names collection ↔ kind.collection step.fields = .str collection := by
  constructor
  · rintro ⟨known, known_eq, named⟩
    have found := Kind.ofName?_name known
    rw [known_eq, ← same, Kind.ofName?_name] at found
    rwa [Option.some.inj found]
  · intro named
    exact ⟨kind, same, named⟩

/-- The collections that steps name. -/
def Step.collections (steps : List Step) : Set String :=
  { collection | ∃ step ∈ steps, step.Names collection }

/-- Sets of collections, one for each party, that have none in common. -/
def Apart {ι : Type} (own : ι → Set String) : Prop :=
  ∀ side other, side ≠ other → own other ⊆ (own side)ᶜ

/-- The collections that are in none of the sets. -/
def outside {ι : Type} (own : ι → Set String) : Set String :=
  { collection | ∀ side, collection ∉ own side }

theorem outside_subset {ι : Type} (own : ι → Set String) (side : ι) :
    outside own ⊆ (own side)ᶜ :=
  fun _ free => free side

/-- No step sends a mail. -/
def Step.Silent (steps : List Step) : Prop := ∀ step ∈ steps, step.kind ≠ Kind.email.name

namespace Execution

variable {request : Request} {step : Step} {own : Set String}

theorem reply_local (silent : step.kind ≠ Kind.email.name) (steady : request.collaborators.Steady)
    (owned : ∀ collection, step.Names collection → collection ∈ own) (environment : Object) :
    Handler.Local own (reply .standard request step environment) := by
  intro world other alike issued_eq
  simp only [reply]
  cases found : Registry.standard.find step.kind with
  | error error => exact ⟨rfl, issued_eq, alike, .refl world⟩
  | ok handler =>
      obtain ⟨kind, name_eq, rfl⟩ := Registry.standard_find_eq_ok_iff.1 found
      have quiet : kind ≠ .email := by
        rintro rfl
        exact silent name_eq.symm
      exact kind.handler_local quiet steady
        (fun collection named => owned collection ⟨kind, name_eq, named⟩) world other alike issued_eq

/-- A step comes to the same in scenes that are alike within the collections it names, whatever their
sinks are. -/
theorem runStep_local (silent : step.kind ≠ Kind.email.name)
    (steady : request.collaborators.Steady)
    (owned : ∀ collection, step.Names collection → collection ∈ own) (index : Nat)
    (progress : Progress) {scene other : Scene} (alike : scene.world.Alike own other.world)
    (issued_eq : scene.world.issued = other.world.issued) :
    (runStep .standard request index step progress scene).1 =
        (runStep .standard request index step progress other).1 ∧
      (runStep .standard request index step progress scene).2.world.issued =
        (runStep .standard request index step progress other).2.world.issued ∧
      (runStep .standard request index step progress scene).2.world.Alike own
        (runStep .standard request index step progress other).2.world ∧
      scene.world.Alike ownᶜ (runStep .standard request index step progress scene).2.world := by
  obtain ⟨same, issued, alikeAfter, kept⟩ :=
    reply_local silent steady owned progress.environment scene.world other.world alike issued_eq
  cases outcome : (reply .standard request step progress.environment other.world).result with
  | ok value =>
      rw [runStep_of_ok Registry.standard_leavesInput index outcome,
        runStep_of_ok Registry.standard_leavesInput index (same.trans outcome), alike.now_eq]
      exact ⟨rfl, issued, alikeAfter, kept⟩
  | error failure =>
      rw [runStep_of_error Registry.standard_leavesInput index outcome,
        runStep_of_error Registry.standard_leavesInput index (same.trans outcome), alike.now_eq]
      exact ⟨rfl, issued, alikeAfter, kept⟩

end Execution

/-! ## Turns are local to the collections of a party -/

namespace Party

/-- The steps that are left send no mails and name only collections of a set, and the collaborators
are steady. -/
structure Within (own : Set String) (party : Party) : Prop where
  silent : Step.Silent party.rest
  steady : party.request.collaborators.Steady
  owned : Step.collections party.rest ⊆ own

variable {own : Set String} {party : Party} {scene other : Scene}

theorem Within.turn (inside : party.Within own) (scene : Scene) :
    (party.turn .standard scene).1.Within own := by
  unfold Party.turn
  split
  · rename_i step rest none_eq rest_eq
    have later : ∀ next ∈ rest, next ∈ party.rest := by
      intro next member
      rw [rest_eq]
      exact List.mem_cons_of_mem step member
    dsimp only
    cases (runStep .standard party.request party.index step party.progress
      (scene.supplied party.issued)).1 with
    | ok progress =>
        refine ⟨fun next member => inside.silent next (later next member), inside.steady, ?_⟩
        rintro collection ⟨next, member, named⟩
        exact inside.owned ⟨next, later next member, named⟩
    | error failed => exact ⟨inside.silent, inside.steady, inside.owned⟩
  · exact inside

/-- A turn comes to the same in scenes that are alike within the collections of the party, leaves them
so, and keeps all other collections. -/
theorem turn_local (inside : party.Within own) (alike : scene.world.Alike own other.world) :
    (party.turn .standard scene).1 = (party.turn .standard other).1 ∧
      (party.turn .standard scene).2.world.Alike own (party.turn .standard other).2.world ∧
      scene.world.Alike ownᶜ (party.turn .standard scene).2.world := by
  unfold turn
  split
  · rename_i step rest none_eq rest_eq
    have member : step ∈ party.rest := by simp [rest_eq]
    have alikeHere : (scene.supplied party.issued).world.Alike own
        (other.supplied party.issued).world := ⟨alike.store_alike, alike.now_eq⟩
    obtain ⟨same, issued_eq, alikeAfter, kept⟩ :=
      Execution.runStep_local (inside.silent step member) inside.steady
        (fun collection named => inside.owned ⟨step, member, named⟩) party.index party.progress
        alikeHere rfl
    refine ⟨?_, alikeAfter, kept.store_alike, kept.now_eq⟩
    dsimp only
    rw [same, issued_eq]
  · exact ⟨rfl, alike, .refl scene.world⟩

/-- Any number of turns comes to the same in scenes that are alike within the collections of the
party. -/
theorem alone_local (turns : Nat) (inside : party.Within own)
    (alike : scene.world.Alike own other.world) :
    (party.alone .standard turns scene).1 = (party.alone .standard turns other).1 ∧
      (party.alone .standard turns scene).2.world.Alike own
        (party.alone .standard turns other).2.world ∧
      scene.world.Alike ownᶜ (party.alone .standard turns scene).2.world := by
  induction turns generalizing party scene other with
  | zero => exact ⟨rfl, alike, .refl scene.world⟩
  | succ turns inductionHypothesis =>
      obtain ⟨same, alikeAfter, kept⟩ := turn_local inside alike
      obtain ⟨sameLast, alikeLast, keptLast⟩ := inductionHypothesis (inside.turn scene) alikeAfter
      simp only [alone]
      rw [← same]
      exact ⟨sameLast, alikeLast, kept.trans keptLast⟩

/-- A party that has ended stays as it is. -/
theorem turn_of_hasEnded {registry : Registry Handler} (ended : party.HasEnded) (scene : Scene) :
    party.turn registry scene = (party, scene) := by
  unfold turn
  split
  · rename_i step rest none_eq rest_eq
    rcases ended with empty | stopped
    · rw [rest_eq] at empty
      cases empty
    · rw [none_eq] at stopped
      cases stopped
  · rfl

theorem alone_of_hasEnded {registry : Registry Handler} (ended : party.HasEnded) (turns : Nat)
    (scene : Scene) : party.alone registry turns scene = (party, scene) := by
  induction turns with
  | zero => rfl
  | succ turns inductionHypothesis =>
      rw [alone, turn_of_hasEnded ended]
      exact inductionHypothesis

theorem alone_succ (registry : Registry Handler) (turns : Nat) (party : Party) (scene : Scene) :
    party.alone registry (turns + 1) scene =
      (party.turn registry scene).1.alone registry turns (party.turn registry scene).2 :=
  rfl

/-- A turn runs one of the steps that are left, unless the party has ended or ends with it. -/
theorem turn_cases (registry : Registry Handler) (party : Party) (scene : Scene) :
    party.HasEnded ∨ (party.turn registry scene).1.HasEnded ∨
      (party.turn registry scene).1.rest.length < party.rest.length := by
  cases stop_eq : party.stop with
  | some stop => exact .inl (.inr (by rw [stop_eq]; rfl))
  | none =>
      cases rest_eq : party.rest with
      | nil => exact .inl (.inl rest_eq)
      | cons step rest =>
          right
          simp only [turn, stop_eq, rest_eq]
          cases (runStep registry party.request party.index step party.progress
            (scene.supplied party.issued)).1 with
          | ok progress => exact .inr (Nat.lt_succ_self rest.length)
          | error failed => exact .inl (.inr rfl)

/-- A party has ended after as many turns as it has steps left. -/
theorem hasEnded_alone {registry : Registry Handler} {turns : Nat}
    (enough : party.rest.length ≤ turns) : (party.alone registry turns scene).1.HasEnded := by
  induction turns generalizing party scene with
  | zero => exact .inl (List.eq_nil_of_length_eq_zero (Nat.le_zero.1 enough))
  | succ turns inductionHypothesis =>
      rcases turn_cases registry party scene with ended | ended | fewer
      · rw [alone_of_hasEnded ended]
        exact ended
      · rw [alone_succ, alone_of_hasEnded ended]
        exact ended
      · rw [alone_succ]
        exact inductionHypothesis (by omega)

theorem request_turn (registry : Registry Handler) (party : Party) (scene : Scene) :
    (party.turn registry scene).1.request = party.request := by
  unfold turn
  split
  · rename_i step rest none_eq rest_eq
    dsimp only
    cases (runStep registry party.request party.index step party.progress
      (scene.supplied party.issued)).1 <;> rfl
  · rfl

theorem request_alone (registry : Registry Handler) (turns : Nat) (party : Party) (scene : Scene) :
    (party.alone registry turns scene).1.request = party.request := by
  induction turns generalizing party scene with
  | zero => rfl
  | succ turns inductionHypothesis =>
      rw [alone, inductionHypothesis, request_turn]

/-- A party that ends alone has run all its steps, up to the first failure. -/
theorem runFrom_of_alone {registry : Registry Handler} {turns : Nat} (started : party.stop = none)
    (ended : (party.alone registry turns scene).1.HasEnded) :
    ∃ last, runFrom registry party.request party.index party.rest party.progress
        (scene.supplied party.issued) =
      (((party.alone registry turns scene).1.progress, (party.alone registry turns scene).1.stop),
        last) ∧
      last.world.Alike Set.univ (party.alone registry turns scene).2.world := by
  induction turns generalizing party scene with
  | zero =>
      obtain empty | stopped := ended
      · have empty : party.rest = [] := empty
        simp only [alone, empty, runFrom, started]
        exact ⟨_, rfl, .refl scene.world.store, rfl⟩
      · have stopped : party.stop.isSome := stopped
        rw [started] at stopped
        cases stopped
  | succ turns inductionHypothesis =>
      cases rest_eq : party.rest with
      | nil =>
          have ended : party.HasEnded := .inl rest_eq
          rw [alone_of_hasEnded ended, runFrom, started]
          exact ⟨_, rfl, .refl scene.world.store, rfl⟩
      | cons step rest =>
          rw [runFrom]
          rcases ran : runStep registry party.request party.index step party.progress
            (scene.supplied party.issued) with ⟨outcome, next⟩
          have turn_eq : party.turn registry scene =
              (party.after step rest next.world.issued outcome, next) := by
            simp only [turn, started, rest_eq, ran]
          simp only [alone, turn_eq] at ended ⊢
          cases outcome with
          | ok progress =>
              have going : (party.after step rest next.world.issued (.ok progress)).stop = none :=
                started
              exact inductionHypothesis going ended
          | error failed =>
              have stopped : (party.after step rest next.world.issued (.error failed)).HasEnded :=
                .inr rfl
              simp only [alone_of_hasEnded stopped]
              exact ⟨_, rfl, .refl next.world⟩

end Party

/-- At every point of a schedule of parties that name no collection in common, each party is where as
many turns alone would have brought it, and so are its collections; the others are untouched. -/
theorem interleave_alone {ι : Type} [DecidableEq ι] {own : ι → Set String}
    (apart : Apart own) (schedule : List ι)
    {parties : ι → Party} (inside : ∀ side, (parties side).Within (own side)) {scene : Scene}
    (scenes : ι → Scene)
    (alike : ∀ side, scene.world.Alike (own side) (scenes side).world) :
    (∀ side, (interleave .standard schedule parties scene).1 side =
        ((parties side).alone .standard (schedule.count side) (scenes side)).1 ∧
      (interleave .standard schedule parties scene).2.world.Alike (own side)
        ((parties side).alone .standard (schedule.count side) (scenes side)).2.world) ∧
    scene.world.Alike (outside own)
      (interleave .standard schedule parties scene).2.world := by
  induction schedule generalizing parties scene scenes with
  | nil => exact ⟨fun side => ⟨rfl, alike side⟩, .refl scene.world⟩
  | cons mover schedule inductionHypothesis =>
      obtain ⟨same, alikeAfter, kept⟩ := Party.turn_local (inside mover) (alike mover)
      let moved := (parties mover).turn .standard scene
      let movedAlone := (parties mover).turn .standard (scenes mover)
      have insideAfter (side : ι) :
          (Function.update parties mover moved.1 side).Within (own side) := by
        by_cases mine : side = mover
        · subst mine
          rw [Function.update_self]
          exact (inside side).turn scene
        · rw [Function.update_of_ne mine]
          exact inside side
      -- The other parties see no change, since the collections of the mover are not theirs.
      have alikeNow (side : ι) :
          moved.2.world.Alike (own side) (Function.update scenes mover movedAlone.2 side).world := by
        by_cases mine : side = mover
        · subst mine
          rw [Function.update_self]
          exact alikeAfter
        · rw [Function.update_of_ne mine]
          exact (kept.mono (apart mover side (Ne.symm mine))).symm.trans (alike side)
      obtain ⟨each, others⟩ := inductionHypothesis insideAfter
        (Function.update scenes mover movedAlone.2) alikeNow
      refine ⟨?_, (kept.mono (outside_subset own mover)).trans others⟩
      intro side
      have here := each side
      by_cases mine : side = mover
      · subst mine
        rw [Function.update_self, Function.update_self] at here
        have whole : (parties side).alone .standard (schedule.count side + 1) (scenes side) =
            moved.1.alone .standard (schedule.count side) movedAlone.2 := by
          rw [show moved.1 = movedAlone.1 from same]
          rfl
        rw [List.count_cons_self, whole]
        exact here
      · rw [Function.update_of_ne mine, Function.update_of_ne mine] at here
        rw [List.count_cons_of_ne (Ne.symm mine)]
        exact here

/-! ## Jobs -/

/-- An execution to be done, with the identifiers that were issued from its own supply. -/
structure Job where
  steps : List Step
  input : Object
  headers : Object
  executionId : Option String := none
  issued : Nat := 0

namespace Job

/-- An engine that draws identifiers from the supply of a job. -/
def supply (engine : Engine) (job : Job) : Engine :=
  { engine with scene := engine.scene.supplied job.issued }

/-- Execute a job in one go. -/
def execute (engine : Engine) (job : Job) : Except ExecutionFailure Result × Engine :=
  (job.supply engine).execute job.steps (.obj job.input) (.obj job.headers) job.executionId

/-- The party that is about to execute a job. -/
def party (engine : Engine) (job : Job) : Party where
  request := (job.supply engine).request job.executionId (Object.ofFields job.headers)
  issued := ((job.supply engine).identify job.executionId).2.scene.world.issued
  index := 0
  rest := job.steps
  progress := Execution.start (Object.ofFields job.input)

/-- A job has the same party wherever it is begun. -/
theorem party_scene (engine : Engine) (scene : Scene) (job : Job) :
    job.party { engine with scene } = job.party engine := by
  unfold party Engine.request Engine.identify
  cases job.executionId with
  | none => rfl
  | some id => by_cases empty : id = "" <;> simp only [empty, if_true, if_false] <;> rfl

theorem scene_identify (engine : Engine) (job : Job) :
    ((job.supply engine).identify job.executionId).2.scene =
      engine.scene.supplied (job.party engine).issued := by
  obtain ⟨issued, engine_eq⟩ := (job.supply engine).exists_identify_eq job.executionId
  simp only [party, engine_eq]
  rfl

/-- Executing a job in one go comes to what its party comes to alone. -/
theorem execute_eq {engine : Engine} {job : Job} {turns : Nat}
    (ended : ((job.party engine).alone engine.registry turns engine.scene).1.HasEnded) :
    ∃ last, job.execute engine =
        (((job.party engine).alone engine.registry turns engine.scene).1.result,
          { engine with scene := last }) ∧
      last.world.Alike Set.univ
        ((job.party engine).alone engine.registry turns engine.scene).2.world := by
  obtain ⟨last, ran, alike⟩ := Party.runFrom_of_alone rfl ended
  have ran : runFrom (job.supply engine).registry (job.party engine).request 0 job.steps
      (Execution.start (Object.ofFields job.input)) (engine.scene.supplied (job.party engine).issued) =
        _ := ran
  rw [← job.scene_identify engine] at ran
  have executed := Engine.execute_of_run (Pairs.toObject_fields job.input)
    (Pairs.toObject_fields job.headers) ran
  obtain ⟨issued, engine_eq⟩ := (job.supply engine).exists_identify_eq job.executionId
  refine ⟨last, ?_, alike⟩
  rw [execute, executed, Party.result, Party.request_alone, engine_eq]
  rfl

/-- Executed in a scene that is like that of an engine within its collections, a job comes to what its
party comes to alone in the scene of the engine, and keeps all other collections. -/
theorem execute_local {engine : Engine} (standard : engine.registry = .standard) {job : Job}
    {own : Set String} (inside : (job.party engine).Within own) {turns : Nat}
    (ended : ((job.party engine).alone .standard turns engine.scene).1.HasEnded) {scene : Scene}
    (alike : scene.world.Alike own engine.scene.world) :
    ∃ last, job.execute { engine with scene } =
        (((job.party engine).alone .standard turns engine.scene).1.result,
          { engine with scene := last }) ∧
      last.world.Alike own ((job.party engine).alone .standard turns engine.scene).2.world ∧
      scene.world.Alike ownᶜ last.world := by
  obtain ⟨same, alikeAfter, kept⟩ := Party.alone_local turns inside alike
  rw [← same] at ended ⊢
  rw [← standard, ← job.party_scene engine scene] at ended alikeAfter kept ⊢
  obtain ⟨last, executed, alikeLast⟩ := @execute_eq { engine with scene } job turns ended
  exact ⟨last, executed, (alikeLast.mono (Set.subset_univ own)).trans alikeAfter,
    kept.trans (alikeLast.symm.mono (Set.subset_univ ownᶜ))⟩

end Job

/-! ## Two jobs -/

/-- Which of two jobs. -/
inductive Side where
  | first
  | second
deriving DecidableEq

theorem Side.eq_or_eq {side other : Side} (differ : side ≠ other) (mover : Side) :
    mover = side ∨ mover = other := by
  cases side <;> cases other <;> cases mover <;> simp_all

/-- Two jobs whose steps name no collection in common and send no mails, whose collaborators are
steady and which draw identifiers from their own supplies, take turns.  Each of them has come to its
end when it had as many turns as it has steps.  And on any schedule on which both have come to their
ends they have the results, and leave the documents, of being executed one after the other, in either
order. -/
theorem interleave_serial (engine : Engine) (standard : engine.registry = .standard)
    (steady : engine.collaborators.Steady) (jobs : Side → Job)
    (silent : ∀ side, Step.Silent (jobs side).steps)
    (apart : ∀ collection ∈ Step.collections (jobs .first).steps,
      collection ∉ Step.collections (jobs .second).steps)
    (schedule : List Side) (parties : Side → Party) (scene : Scene)
    (interleaved : interleave engine.registry schedule (fun side => (jobs side).party engine)
      engine.scene = (parties, scene)) :
    (∀ side, (jobs side).steps.length ≤ schedule.count side → (parties side).HasEnded) ∧
    ((∀ side, (parties side).HasEnded) → ∀ side other, side ≠ other →
      ∃ between last, (jobs side).execute engine = ((parties side).result, between) ∧
        (jobs other).execute between = ((parties other).result, last) ∧
        last.scene.world.store.Same scene.world.store) := by
  let own (side : Side) : Set String := Step.collections (jobs side).steps
  have apart : Apart own := by
    rintro (_ | _) (_ | _) differ collection member
    · exact absurd rfl differ
    · exact fun both => apart collection both member
    · exact apart collection member
    · exact absurd rfl differ
  have inside (side : Side) : ((jobs side).party engine).Within (own side) :=
    ⟨silent side, steady, subset_rfl⟩
  obtain ⟨each, others⟩ := interleave_alone apart schedule inside (fun _ => engine.scene)
    fun side => .refl engine.scene.world
  rw [standard] at interleaved
  simp only [interleaved] at each others
  constructor
  · intro side enough
    rw [(each side).1]
    exact Party.hasEnded_alone enough
  intro ended side other differ
  have endedAlone (side : Side) : (((jobs side).party engine).alone .standard
      (schedule.count side) engine.scene).1.HasEnded := (each side).1 ▸ ended side
  -- The second of the two jobs finds its collections as they were before the first.
  obtain ⟨between, executed, onSide, kept⟩ :=
    Job.execute_local standard (inside side) (endedAlone side) (.refl engine.scene.world)
  obtain ⟨last, executedLast, onOther, keptLast⟩ :=
    Job.execute_local standard (inside other) (endedAlone other)
      (kept.mono (apart side other differ)).symm
  rw [← (each side).1] at executed
  rw [← (each other).1] at executedLast
  refine ⟨_, _, executed, executedLast, ?_⟩
  have alikeOther : last.world.Alike (own other) scene.world := onOther.trans (each other).2.symm
  have alikeSide : last.world.Alike (own side) scene.world :=
    (keptLast.mono (apart other side differ.symm)).symm.trans
      (onSide.trans (each side).2.symm)
  have elsewhere : last.world.Alike (outside own) scene.world := by
    have before := kept.mono (outside_subset own side)
    have after := keptLast.mono (outside_subset own other)
    exact (before.trans after).symm.trans others
  refine ⟨alikeOther.store_alike.names_eq, ?_⟩
  intro collection
  by_cases free : collection ∈ outside own
  · exact elsewhere.store_alike.documents_eq collection free
  · obtain ⟨owner, member⟩ : ∃ owner, collection ∈ own owner := by
      simpa [outside] using free
    rcases Side.eq_or_eq differ owner with rfl | rfl
    · exact alikeSide.store_alike.documents_eq collection member
    · exact alikeOther.store_alike.documents_eq collection member

/-- A registration takes turns with an order, and the user is registered once. -/
theorem interleave_serial_registration :
    let insert (collection : String) : Step :=
      ⟨"step1", "dbInsert", [("collection", .str collection), ("data", .str "input")], "saved"⟩
    let find (collection : String) : Step :=
      ⟨"step2", "dbFind", [("collection", .str collection)], "found"⟩
    let engine : Engine := { scene := { world := { store := .ofNames ["users", "orders"] } } }
    let jobs : Side → Job
      | .first => ⟨[insert "users", find "users"], [("name", .str "Ada")], [], some "ada", 0⟩
      | .second => ⟨[insert "orders"], [("item", .str "tea")], [], some "bob", 0⟩
    let ran := interleave engine.registry [.first, .second, .first]
      (fun side => (jobs side).party engine) engine.scene
    ∃ parties scene between last, ran = (parties, scene) ∧
      (jobs .second).execute engine = ((parties .second).result, between) ∧
      (jobs .first).execute between = ((parties .first).result, last) ∧
      last.scene.world.store.Same scene.world.store ∧
      (scene.world.store.documents? "users").map List.length = some 1 := by
  intro insert find engine jobs ran
  have silent (side : Side) : Step.Silent (jobs side).steps := by
    cases side <;> simp [jobs, insert, find, Step.Silent, Kind.name]
  have steady : engine.collaborators.Steady := by
    constructor <;> simp [engine]
  have insert_eq {collection : String} : Kind.insert.name = (insert collection).kind := rfl
  have find_eq {collection : String} : Kind.find.name = (find collection).kind := rfl
  have users : Step.collections (jobs .first).steps ⊆ {"users"} := by
    rintro collection ⟨step, member, named⟩
    rcases List.mem_cons.1 member with rfl | member
    · exact (Value.str.inj ((Step.names_iff insert_eq).1 named)).symm
    · obtain rfl := List.mem_singleton.1 member
      exact (Value.str.inj ((Step.names_iff find_eq).1 named)).symm
  have orders : Step.collections (jobs .second).steps ⊆ {"orders"} := by
    rintro collection ⟨step, member, named⟩
    obtain rfl := List.mem_singleton.1 member
    exact (Value.str.inj ((Step.names_iff insert_eq).1 named)).symm
  have apart : ∀ collection ∈ Step.collections (jobs .first).steps,
      collection ∉ Step.collections (jobs .second).steps := by
    intro collection member both
    have first : collection = "users" := users member
    have second : collection = "orders" := orders both
    rw [first] at second
    exact absurd second (by decide)
  have one : (ran.2.world.store.documents? "users").map List.length = some 1 := by
    decide +kernel
  obtain ⟨parties, scene, ran_eq⟩ : ∃ parties scene, ran = (parties, scene) :=
    ⟨ran.1, ran.2, by rw [Prod.eta]⟩
  rw [ran_eq] at one
  obtain ⟨enough, serial⟩ := interleave_serial engine rfl steady jobs silent apart
    [.first, .second, .first] parties scene ran_eq
  obtain ⟨between, last, executed, executedLast, same⟩ :=
    serial (fun side => enough side (by cases side <;> decide)) .second .first (by decide)
  exact ⟨parties, scene, between, last, ran_eq, executed, executedLast, same, one⟩

end Workflow
