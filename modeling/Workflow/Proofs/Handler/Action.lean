import Workflow.Handler.Basic

/-!
# Endings of actions

What an action ends with follows from what the actions it is made of end with.  There is one rule for
each way in which an action begins: with an outcome that is known already, with a look at the store,
with a question to a collaborator or with a change of the store.
-/

namespace Workflow

namespace Action

variable {α β : Type} {world : World} {ending : Except Failure β → World → Prop}
  {next : α → Action β}

/-- Carried out in a world, an action ends with an outcome and a world that are as described. -/
def Ends (act : Action α) (world : World) (ending : Except Failure α → World → Prop) : Prop :=
  ending (act.run.run world).1 (act.run.run world).2

theorem Ends.pure {value : β} (ended : ending (.ok value) world) :
    (Pure.pure value : Action β).Ends world ending :=
  ended

theorem Ends.ofExcept {outcome : Except Failure β} (ended : ending outcome world) :
    (ofExcept outcome).Ends world ending :=
  ended

theorem Ends.fail {error : StepError} (ended : ending (.error (.step error)) world) :
    (fail error : Action β).Ends world ending :=
  ended

theorem Ends.ask {answer : Nat → Except Failure β} (ended : ending (answer world.calls) world.tick) :
    (ask answer).Ends world ending :=
  ended

/-- An action goes on where the one before it has ended, unless that one failed. -/
theorem Ends.bind {first : Action α} {outcome : Except Failure α} {after : World}
    (begun : first.run.run world = (outcome, after))
    (ok : ∀ value, outcome = .ok value → (next value).Ends after ending)
    (error : ∀ failure, outcome = .error failure → ending (.error failure) after) :
    (first >>= next).Ends world ending := by
  rw [Ends, ExceptT.run_bind, StateT.run_bind, begun]
  cases outcome with
  | ok value => exact ok value rfl
  | error failure => exact error failure rfl

/-- An action in front of another may end in any way that lets the other end as described. -/
theorem Ends.seq {first : Action α}
    (begun : first.Ends world fun outcome after =>
      (∀ value, outcome = .ok value → (next value).Ends after ending) ∧
        ∀ failure, outcome = .error failure → ending (.error failure) after) :
    (first >>= next).Ends world ending :=
  .bind rfl begun.1 begun.2

theorem Ends.weaken {act : Action β} {other : Except Failure β → World → Prop}
    (ends : act.Ends world other) (implies : ∀ outcome after, other outcome after → ending outcome after) :
    act.Ends world ending :=
  implies _ _ ends

theorem Ends.ofExcept_bind {outcome : Except Failure α}
    (ok : ∀ value, outcome = .ok value → (next value).Ends world ending)
    (error : ∀ failure, outcome = .error failure → ending (.error failure) world) :
    (Action.ofExcept outcome >>= next).Ends world ending :=
  .bind rfl ok error

theorem Ends.ofFault_bind {outcome : Except Fault α}
    (ok : ∀ value, outcome = .ok value → (next value).Ends world ending)
    (error : ∀ cause, outcome = .error cause → ending (.error (.fault cause)) world) :
    (Action.ofFault outcome >>= next).Ends world ending := by
  refine .bind rfl ?_ ?_
  · intro value found
    cases outcome with
    | ok known => exact ok value (congrArg Except.ok (Except.ok.inj found))
    | error cause => cases found
  · intro failure failed
    cases outcome with
    | ok known => cases failed
    | error cause => exact Except.error.inj failed ▸ error cause rfl

theorem Ends.query_bind {look : Store → Except Failure α}
    (ok : ∀ value, look world.store = .ok value → (next value).Ends world ending)
    (error : ∀ failure, look world.store = .error failure → ending (.error failure) world) :
    (query look >>= next).Ends world ending :=
  .bind rfl ok error

theorem Ends.ask_bind {answer : Nat → Except Failure α}
    (ok : ∀ value, answer world.calls = .ok value → (next value).Ends world.tick ending)
    (error : ∀ failure, answer world.calls = .error failure →
      ending (.error failure) world.tick) :
    (Action.ask answer >>= next).Ends world ending :=
  .bind rfl ok error

/-! With an outcome that is known, an action goes on with its value. -/

theorem Ends.ofExcept_ok {outcome : Except Failure α} {value : α} (known : outcome = .ok value)
    (goes : (next value).Ends world ending) : (Action.ofExcept outcome >>= next).Ends world ending := by
  subst known
  exact goes

theorem Ends.ofFault_ok {outcome : Except Fault α} {value : α} (known : outcome = .ok value)
    (goes : (next value).Ends world ending) : (Action.ofFault outcome >>= next).Ends world ending := by
  subst known
  exact goes

theorem Ends.query_ok {look : Store → Except Failure α} {value : α}
    (known : look world.store = .ok value) (goes : (next value).Ends world ending) :
    (query look >>= next).Ends world ending :=
  .bind (congrArg (·, world) known) (fun _ same => Except.ok.inj same ▸ goes) nofun

/-- An action whose result is reported ends as it does. -/
theorem Ends.report {first : Action α} {report : α → β} {outcome : Except Failure α}
    {after : World} (begun : first.run.run world = (outcome, after))
    (ended : ending (outcome.map report) after) :
    (first >>= fun value => Pure.pure (report value)).Ends world ending := by
  refine .bind begun ?_ ?_
  · rintro value rfl
    exact ended
  · rintro failure rfl
    exact ended

theorem run_change {act : Store → Except Failure α × Store} {outcome : Except Failure α}
    {store : Store} (acted : act world.store = (outcome, store)) :
    (change act).run.run world = (outcome, { world with store }) := by
  change Action.change act world = _
  rw [Action.change, acted]

/-- A document given to a registered collection is appended with its id, then announced. -/
theorem run_create {collection : String} {documents : List Document}
    (present : world.store.documents? collection = some documents) (document : Object) :
    (create collection (.obj document)).run.run world =
      (announce (Object.setDefault document "_id" (.str (Identifier.plain (world.issued + 1)))),
        { world with
          issued := world.issued + 1
          store := world.store.replace collection
            (documents ++
              [Object.setDefault document "_id" (.str (Identifier.plain (world.issued + 1)))]) }) := by
  have known : world.store.documents collection = .ok documents := by
    rw [Store.documents, present]
  change create collection (.obj document) world = _
  simp only [create, Store.create, known, World.draw]
  rfl

end Action

/-- A handler that runs an action has the result that the action ends with. -/
theorem Handler.result_of_ends {act : Object → Object → Request → Action Value}
    {fields environment : Object} {request : Request} {world : World}
    {expected : Except Failure Value}
    (ends : (act fields environment request).Ends world fun outcome _ => outcome = expected) :
    (ofAction act fields environment request world).result = expected :=
  ends

/-- A handler that runs an action replies what the action ends with. -/
theorem Handler.reply_of_ends {act : Object → Object → Request → Action Value}
    {fields environment : Object} {request : Request} {world there : World}
    {expected : Except Failure Value}
    (ends : (act fields environment request).Ends world fun outcome after =>
      outcome = expected ∧ after = there) :
    ofAction act fields environment request world = { result := expected, world := there } := by
  obtain ⟨rfl, rfl⟩ := ends
  rfl

end Workflow
