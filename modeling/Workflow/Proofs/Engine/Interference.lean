import Workflow.Proofs.Engine.Operation

/-!
# Non-interference of the sink

A sink is told what an execution does and has no say in it.  Every operation of an engine reads the
world, the graphs, the publications and the runs, and goes on after a call of the sink whatever the
call came to.  Two engines that differ in their sinks only therefore answer alike, and differ in
their sinks only afterwards.
-/

namespace Workflow

namespace Execution

variable {registry : Registry Handler} {request : Request}

/-- A step reads the world of its scene and not the sink. -/
theorem runStep_congr {first second : Scene} (same : first.world = second.world) (index : Nat)
    (step : Step) (progress : Progress) :
    (runStep registry request index step progress first).1 =
        (runStep registry request index step progress second).1 ∧
      (runStep registry request index step progress first).2.world =
        (runStep registry request index step progress second).2.world := by
  simp only [runStep, Scene.record, same]
  cases (reply registry request step progress.environment second.world).result with
  | ok value => exact ⟨rfl, rfl⟩
  | error failure => exact ⟨rfl, rfl⟩

/-- So does a run of steps, of which each begins in the world that the steps before it left. -/
theorem runFrom_congr {first second : Scene} (same : first.world = second.world) (index : Nat)
    (steps : List Step) (progress : Progress) :
    (runFrom registry request index steps progress first).1 =
        (runFrom registry request index steps progress second).1 ∧
      (runFrom registry request index steps progress first).2.world =
        (runFrom registry request index steps progress second).2.world := by
  induction steps generalizing index progress first second with
  | nil => exact ⟨rfl, same⟩
  | cons step rest inductionHypothesis =>
      rcases runStep_congr same index step progress with ⟨outcome_eq, world_eq⟩
      rcases ended : runStep registry request index step progress second with ⟨outcome, scene⟩
      rcases begun : runStep registry request index step progress first with ⟨other, there⟩
      rw [begun, ended] at outcome_eq world_eq
      simp only at outcome_eq world_eq
      subst outcome_eq
      rw [runFrom, runFrom, begun, ended]
      rcases other with ⟨stopped, report⟩ | after
      · exact ⟨rfl, world_eq⟩
      · exact inductionHypothesis world_eq (index + 1) after

end Execution

namespace Engine

/-- Two engines that differ in their sinks at most. -/
structure DifferInSink (first second : Engine) : Prop where
  graphs_eq : first.graphs = second.graphs
  publications_eq : first.publications = second.publications
  runs_eq : first.runs = second.runs
  registry_eq : first.registry = second.registry
  collaborators_eq : first.collaborators = second.collaborators
  world_eq : first.scene.world = second.scene.world

/-- Whatever happens to their sinks, two engines go on to differ in these only. -/
theorem DifferInSink.onSink {first second : Engine} (alike : DifferInSink first second)
    (happening other : Sink → Sink) :
    DifferInSink (first.onSink happening) (second.onSink other) where
  graphs_eq := alike.graphs_eq
  publications_eq := alike.publications_eq
  runs_eq := alike.runs_eq
  registry_eq := alike.registry_eq
  collaborators_eq := alike.collaborators_eq
  world_eq := alike.world_eq

/-- Two engines that differ in their sinks only answer alike and then differ in their sinks only. -/
structure Agree {α : Type} (first second : α × Engine) : Prop where
  answer_eq : first.1 = second.1
  engines : DifferInSink first.2 second.2

/-! ## Operations -/

variable {first second : Engine}

theorem createGraph_agree (alike : DifferInSink first second) (graph : Graph) :
    Agree (first.createGraph graph) (second.createGraph graph) := by
  rcases first with ⟨graphs, publications, runs, registry, collaborators, ⟨world, sink⟩⟩
  rcases second with ⟨_, _, _, _, _, ⟨_, other⟩⟩
  rcases alike with ⟨rfl, rfl, rfl, rfl, rfl, rfl⟩
  unfold createGraph
  cases graph.compile with
  | error failure => exact ⟨rfl, ⟨rfl, rfl, rfl, rfl, rfl, rfl⟩⟩
  | ok steps => exact ⟨rfl, ⟨rfl, rfl, rfl, rfl, rfl, rfl⟩⟩

theorem publish_agree (alike : DifferInSink first second) (graphId name : String) :
    Agree (first.publish graphId name) (second.publish graphId name) := by
  rcases first with ⟨graphs, publications, runs, registry, collaborators, ⟨world, sink⟩⟩
  rcases second with ⟨_, _, _, _, _, ⟨_, other⟩⟩
  rcases alike with ⟨rfl, rfl, rfl, rfl, rfl, rfl⟩
  unfold publish graph?
  by_cases unknown : (keyed graphId graphs).isNone
  · rw [if_pos unknown, if_pos unknown]
    exact ⟨rfl, ⟨rfl, rfl, rfl, rfl, rfl, rfl⟩⟩
  · rw [if_neg unknown, if_neg unknown]
    by_cases empty : Slug.ofName name = ""
    · simp only [empty, if_true]
      exact ⟨rfl, ⟨rfl, rfl, rfl, rfl, rfl, rfl⟩⟩
    · simp only [empty, if_false]
      exact ⟨rfl, ⟨rfl, rfl, rfl, rfl, rfl, rfl⟩⟩

theorem executeAs_agree (alike : DifferInSink first second) (steps : List Step)
    (input headers : Value) (executionId : String) :
    Agree (first.executeAs steps input headers executionId)
      (second.executeAs steps input headers executionId) := by
  unfold executeAs
  rcases Pairs.toObject headers with cause | sent
  · exact ⟨rfl, alike⟩
  · rcases Pairs.toObject input with cause | bound
    · exact ⟨rfl, alike⟩
    · simp only [alike.registry_eq, alike.collaborators_eq]
      rcases Execution.runFrom_congr alike.world_eq 0 steps (Execution.start bound) with
        ⟨ending_eq, world_eq⟩
      refine ⟨?_, alike.graphs_eq, alike.publications_eq, alike.runs_eq, rfl, rfl, world_eq⟩
      exact congrArg (fun ending => Result.conclude executionId ending.1 ending.2) ending_eq

theorem drawId_agree (alike : DifferInSink first second) : Agree first.drawId second.drawId := by
  refine ⟨?_, alike.graphs_eq, alike.publications_eq, alike.runs_eq, alike.registry_eq,
    alike.collaborators_eq, ?_⟩
  · simp only [drawId, alike.world_eq]
  · simp only [drawId, alike.world_eq]

theorem execute_agree (alike : DifferInSink first second) (steps : List Step)
    (input headers : Value) (executionId : Option String) :
    Agree (first.execute steps input headers executionId)
      (second.execute steps input headers executionId) := by
  rcases drawId_agree alike with ⟨id_eq, drawn⟩
  have fresh := executeAs_agree drawn steps input headers first.drawId.1
  rcases executionId with _ | id
  · simp only [execute, ← id_eq]
    exact fresh
  · by_cases empty : id = ""
    · simp only [execute, empty, if_true, ← id_eq]
      exact fresh
    · simp only [execute, empty, if_false]
      exact executeAs_agree alike steps input headers id

theorem DifferInSink.keepRun (alike : DifferInSink first second) (run : Run) :
    DifferInSink (first.keepRun run) (second.keepRun run) :=
  ⟨alike.graphs_eq, alike.publications_eq, congrArg (putKeyed run.id run) alike.runs_eq,
    alike.registry_eq, alike.collaborators_eq, alike.world_eq⟩

theorem runSteps_agree (alike : DifferInSink first second) (steps : List Step)
    (input headers : Value) (graphId : Option String) :
    Agree (first.runSteps steps input headers graphId)
      (second.runSteps steps input headers graphId) := by
  rcases drawId_agree alike with ⟨id_eq, drawn⟩
  rcases drawsFirst : first.drawId with ⟨id, one⟩
  rcases drawsSecond : second.drawId with ⟨sameId, two⟩
  rw [drawsFirst, drawsSecond] at id_eq drawn
  obtain rfl : id = sameId := id_eq
  replace drawn : DifferInSink one two := drawn
  simp only [runSteps, drawsFirst, drawsSecond, drawn.world_eq]
  -- The run is kept before its steps are executed, and again with the result.
  rcases executeAs_agree (drawn.keepRun (Run.begin id graphId two.scene.world.now)) steps input
    headers id with ⟨outcome_eq, ended⟩
  rcases endsFirst : (one.keepRun (Run.begin id graphId two.scene.world.now)).executeAs steps input
    headers id with ⟨outcome, oneAfter⟩
  rcases endsSecond : (two.keepRun (Run.begin id graphId two.scene.world.now)).executeAs steps input
    headers id with ⟨sameOutcome, twoAfter⟩
  rw [endsFirst, endsSecond] at outcome_eq ended
  obtain rfl : outcome = sameOutcome := outcome_eq
  replace ended : DifferInSink oneAfter twoAfter := ended
  rcases outcome with failure | result
  · exact ⟨rfl, ended⟩
  · let run := (Run.begin id graphId two.scene.world.now).complete result twoAfter.scene.world.now
    simp only [ended.world_eq]
    exact ⟨rfl, (ended.keepRun run).onSink (fun sink => (sink.finish id run.status.name).2)
      fun sink => (sink.finish id run.status.name).2⟩

theorem runGraph_agree (alike : DifferInSink first second) (id : String) (input headers : Value) :
    Agree (first.runGraph id input headers) (second.runGraph id input headers) := by
  simp only [runGraph, graph?, alike.graphs_eq]
  rcases keyed id second.graphs with _ | stored
  · exact ⟨rfl, alike⟩
  · exact runSteps_agree alike stored.steps input headers (some id)

/-! ## Histories -/

theorem Agree.label {α : Type} {first second : α × Engine} (agree : Agree first second)
    (label : α → Answer) : Agree (label first.1, first.2) (label second.1, second.2) :=
  ⟨congrArg label agree.answer_eq, agree.engines⟩

/-- An operation does not notice the sink. -/
theorem perform_agree (alike : DifferInSink first second) (operation : Operation) :
    Agree (first.perform operation) (second.perform operation) := by
  cases operation with
  | createGraph graph => exact (createGraph_agree alike graph).label .stored
  | publish graphId name => exact (publish_agree alike graphId name).label .published
  | execute steps input headers executionId =>
      exact (execute_agree alike steps input headers executionId).label .executed
  | runSteps steps input headers graphId =>
      exact (runSteps_agree alike steps input headers graphId).label .ran
  | runGraph id input headers => exact (runGraph_agree alike id input headers).label .ran
  | register kind handler =>
      exact ⟨rfl, alike.graphs_eq, alike.publications_eq, alike.runs_eq,
        congrArg (·.register kind handler) alike.registry_eq, alike.collaborators_eq,
        alike.world_eq⟩
  | onWorld happening =>
      exact ⟨rfl, alike.graphs_eq, alike.publications_eq, alike.runs_eq, alike.registry_eq,
        alike.collaborators_eq, congrArg happening alike.world_eq⟩

theorem performAll_agree (alike : DifferInSink first second) (happens other : Nat → Sink → Sink)
    (operations : List Operation) :
    Agree (performAll happens first operations) (performAll other second operations) := by
  induction operations generalizing first second happens other with
  | nil => exact ⟨rfl, alike⟩
  | cons operation rest inductionHypothesis =>
      rcases perform_agree (alike.onSink (happens 0) (other 0)) operation with ⟨answer_eq, after⟩
      rcases inductionHypothesis after (fun position => happens (position + 1))
        (fun position => other (position + 1)) with ⟨answers_eq, last⟩
      refine ⟨?_, last⟩
      simp only [performAll, answer_eq, answers_eq]

/-- The sink cannot influence a history: with whatever sinks it begins, and whatever happens to them
on the way, the operations return and raise the same, and the graphs, publications and runs, the
store, the mails and the issued ids are the same in the end. -/
theorem answers_ignore_sink (engine : Engine) (sink other : Sink)
    (happens happenings : Nat → Sink → Sink) (operations : List Operation) :
    (performAll happens (engine.onSink fun _ => sink) operations).1 =
        (performAll happenings (engine.onSink fun _ => other) operations).1 ∧
      DifferInSink (performAll happens (engine.onSink fun _ => sink) operations).2
        (performAll happenings (engine.onSink fun _ => other) operations).2 := by
  have alike : DifferInSink engine engine := ⟨rfl, rfl, rfl, rfl, rfl, rfl⟩
  rcases performAll_agree (alike.onSink (fun _ => sink) fun _ => other) happens happenings
    operations with ⟨answers_eq, engines⟩
  exact ⟨answers_eq, engines⟩

end Engine

end Workflow
