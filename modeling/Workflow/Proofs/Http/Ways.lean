import Workflow.Http.Service
import Workflow.Proofs.Engine.Publications
import Workflow.Proofs.Graph.WireForm

/-!
# Ways to run a graph

A stored graph is run under its id, under a path that it is exposed under, or as the list of its
steps, which a caller may have got as a JSON text.  The steps survive that, as does the graph itself,
and what comes of the run is the same each way: only the id of the graph is not kept with the run of
a list of steps.
-/

namespace Workflow

/-- A run of steps alone. -/
def Run.detached (run : Run) : Run := { run with graphId := none }

namespace Engine

/-- Steps do the same whatever graph they are run for. -/
theorem runSteps_detached (engine : Engine) (steps : List Step) (input headers : Value)
    (graphId : Option String) :
    (engine.runSteps steps input headers none).1 =
        (engine.runSteps steps input headers graphId).1.map Run.detached ∧
      (engine.runSteps steps input headers none).2.scene =
        (engine.runSteps steps input headers graphId).2.scene := by
  simp only [runSteps, executeAs_keepRun]
  cases engine.drawId.2.executeAs steps input headers engine.drawId.1 with
  | mk outcome after => cases outcome <;> exact ⟨rfl, rfl⟩

/-- Before anything has been stored or exposed there is nothing to account for. -/
theorem accounts_nil {engine : Engine} (noGraphs : engine.graphs = [])
    (noPublications : engine.publications = []) : Accounts [] engine := by
  constructor <;> simp [noGraphs, noPublications, keyed, IsLatest]

/-- Throughout a history a graph is stored with the steps that it compiles to. -/
theorem compile_of_history {start : Engine} (noGraphs : start.graphs = [])
    (noPublications : start.publications = []) (happens : Nat → Sink → Sink)
    (operations : List Operation) {id : String} {stored : StoredGraph}
    (kept : (performAll happens start operations).2.graph? id = some stored) :
    stored.graph.compile = .ok stored.steps :=
  (((accounts_nil noGraphs noPublications).performAll happens operations).compiled _
    (mem_of_keyed_eq_some kept)).2

end Engine

namespace Http.Service

open Engine (performAll)

/-- The steps in a request to execute them are those that were written. -/
theorem readExecuteRequest_of_read {wire : Value} {steps : List Step}
    (readable : Record.list (Step.read .modelAttributes) wire = .ok steps) (input : Object) :
    readExecuteRequest [("steps", wire), ("input", .obj input)] = .ok (steps, input) := by
  have read_eq : readExecuteRequest [("steps", wire), ("input", .obj input)] =
      Record.Checked.both Prod.mk
        ((Record.list (Step.read .modelAttributes) wire).within (.field "steps")) (.ok input) :=
    rfl
  rw [read_eq, readable]
  rfl

/-- A graph that compiles, with values that JSON has, that are not too high and among which no integer
has too many digits, is read back from its JSON text, and so are the steps that it compiles to, in
every faithful style and as long as writer and reader reach as deep as the graph.  At any point of
the history of an engine, a service that has stored this graph and exposed it under a path comes to
the same outcome, with the same store, mails and all else in the scene, whether it runs the graph
under its id, under the path, or as the steps that were read back. -/
theorem ways_agree {graph : Graph} {steps : List Step} (compiled : graph.compile = .ok steps)
    (json : graph.isJson = true) (short : graph.integersFit = true) (fits : graph.fits = true)
    {style : Json.Style} (faithful : style.IsFaithful) {writing reading : Nat}
    (written_low : graph.toValue.nesting ≤ writing) (read_low : graph.toValue.nesting ≤ reading) :
    (∃ wire text, graph.write = .ok wire ∧ Json.writeWith style writing wire = .ok text ∧
      Json.read text reading = .ok wire ∧ ∀ rule, Graph.read rule wire = .ok graph) ∧
    ∃ wire text, Step.writeList steps = .ok wire ∧ Json.writeWith style writing wire = .ok text ∧
      Json.read text reading = .ok wire ∧ (∀ rule, Record.list (Step.read rule) wire = .ok steps) ∧
      ∀ (service : Service) (start : Engine) (happens : Nat → Sink → Sink)
        (operations : List Engine.Operation) (id slug : String) (stored : StoredGraph)
        (publication : Publication) (headers input : Object),
        start.graphs = [] → start.publications = [] →
        service.engine = (performAll happens start operations).2 →
        service.engine.graph? id = some stored → stored.graph = graph →
        service.engine.publication? id slug = some publication →
        ∃ (given : List Step) (outcome : Except ExecutionFailure Run) (after alike : Engine),
          readExecuteRequest [("steps", wire), ("input", .obj input)] = .ok (given, input) ∧
          service.engine.runGraph id (.obj input) (.obj headers) = (outcome, after) ∧
          service.engine.runSteps given (.obj input) (.obj headers) none =
            (outcome.map Run.detached, alike) ∧
          alike.scene = after.scene ∧
          service.runGraph headers id input = service.answerRun showRun (outcome, after) ∧
          service.executeSteps headers given input =
            service.answerRun showRun (outcome.map Run.detached, alike) ∧
          service.runPublished headers id slug (some input) =
            service.answerRun showResult (outcome, after) := by
  refine ⟨Graph.exists_text faithful json short fits written_low read_low, ?_⟩
  obtain ⟨wire, text, written, worded, read, readable⟩ :=
    Graph.exists_stepsText faithful compiled json short fits written_low read_low
  refine ⟨wire, text, written, worded, read, readable, ?_⟩
  intro service start happens operations id slug stored publication headers input noGraphs
    noPublications reached kept graph_eq exposed
  -- What is stored with the graph is what it compiles to, so all three ways run the same steps.
  have steps_eq : stored.steps = steps := by
    rw [reached] at kept
    have stored_compiled := Engine.compile_of_history noGraphs noPublications happens operations kept
    rw [graph_eq, compiled] at stored_compiled
    exact (Except.ok.inj stored_compiled).symm
  have byGraph := Engine.runGraph_eq kept (.obj input) (.obj headers)
  rw [steps_eq] at byGraph
  obtain ⟨outcome_eq, scene_eq⟩ :=
    service.engine.runSteps_detached steps (.obj input) (.obj headers) (some id)
  rw [← byGraph] at outcome_eq scene_eq
  rcases ran : service.engine.runGraph id (.obj input) (.obj headers) with ⟨outcome, after⟩
  rcases alone : service.engine.runSteps steps (.obj input) (.obj headers) none with ⟨others, alike⟩
  rw [ran, alone] at outcome_eq scene_eq
  obtain rfl : others = outcome.map Run.detached := outcome_eq
  refine ⟨steps, outcome, after, alike, readExecuteRequest_of_read (readable _) input, rfl, alone,
    scene_eq, ?_, ?_, ?_⟩
  · simp only [runGraph, kept, ran]
  · rw [executeSteps, alone]
  · simp only [runPublished, exposed, Option.getD_some, ran]

/-- A graph of one search. -/
def userSearch : Graph := { nodes := [⟨"search", .find, [("collection", .str "users")]⟩] }

/-- The step that it compiles to. -/
def userSearchStep : Step := ⟨"step1", "dbFind", [("collection", .str "users")], "foundData"⟩

/-- A service that has stored the search and exposed it under a name. -/
def searchService : Service where
  engine := (performAll (fun _ sink => sink) {}
    [.createGraph userSearch, .publish "graph_1" "Search"]).2

theorem ways_agree_search :
    userSearch.compile = .ok [userSearchStep] ∧ userSearch.isJson = true ∧
      userSearch.integersFit = true ∧ userSearch.fits = true ∧
      (∃ wire text, userSearch.write = .ok wire ∧ Json.write wire = .ok text ∧
        Json.read text = .ok wire ∧ Graph.read .model wire = .ok userSearch) ∧
      ∃ (outcome : Except ExecutionFailure Run) (after alike : Engine),
        searchService.engine.runGraph "graph_1" (.obj []) (.obj []) = (outcome, after) ∧
        alike.scene = after.scene ∧
        searchService.executeSteps [] [userSearchStep] [] =
          searchService.answerRun showRun (outcome.map Run.detached, alike) ∧
        searchService.runPublished [] "graph_1" "search" (some []) =
          searchService.answerRun showResult (outcome, after) := by
  have compiled : userSearch.compile = .ok [userSearchStep] := by with_unfolding_all rfl
  have json : userSearch.isJson = true := by decide
  have short : userSearch.integersFit = true := by decide
  have fits : userSearch.fits = true := by decide
  obtain ⟨⟨whole, text, written, worded, read, back⟩, wire, -, -, -, -, readable, agree⟩ :=
    ways_agree compiled json short fits Json.isFaithful_spaced
      (show userSearch.toValue.nesting ≤ Json.writingDepth by decide)
      (show userSearch.toValue.nesting ≤ Json.readingDepth by decide)
  have exposed : searchService.engine.publication? "graph_1" "search" =
      some (.ofName "graph_1" "Search") := by
    decide +kernel
  obtain ⟨given, outcome, after, alike, read_eq, ran, -, scene_eq, -, executed, published⟩ :=
    agree searchService {} (fun _ sink => sink) _ "graph_1" "search"
      ⟨"graph_1", userSearch, [userSearchStep]⟩ _ [] [] rfl rfl rfl (by with_unfolding_all rfl) rfl
      exposed
  obtain rfl : [userSearchStep] = given := by
    rw [readExecuteRequest_of_read (readable _)] at read_eq
    exact congrArg Prod.fst (Except.ok.inj read_eq)
  exact ⟨compiled, json, short, fits, ⟨whole, text, written, worded, read, back _⟩, outcome, after,
    alike, ran, scene_eq, executed, published⟩

/-- A graph with a value that is higher than can be written. -/
def toweringGraph : Graph := { nodes := [⟨"input", .input, [("tower", nested 300)]⟩] }

/-- A graph with an integer that has too many digits. -/
def lengthyGraph : Graph := { nodes := [⟨"input", .input, [("number", .int (10 ^ 4300))]⟩] }

/-- Not every graph that compiles, with values that JSON has, is read back from its JSON text, and
neither is every one that is not too high. -/
theorem graph_not_always_read_back :
    (¬ ∀ graph : Graph, (∃ steps, graph.compile = .ok steps) → graph.isJson = true →
      ∃ wire text, graph.write = .ok wire ∧ Json.write wire = .ok text ∧
        Json.read text = .ok wire ∧ Graph.read .model wire = .ok graph) ∧
    ¬ ∀ graph : Graph, (∃ steps, graph.compile = .ok steps) → graph.isJson = true →
      graph.fits = true →
        ∃ wire text, graph.write = .ok wire ∧ Json.write wire = .ok text ∧
          Json.read text = .ok wire ∧ Graph.read .model wire = .ok graph := by
  constructor
  · intro all
    have json : toweringGraph.isJson = true := by
      simp [toweringGraph, Graph.isJson, Object.isJson_iff, Value.fieldsAreJson, isJson_nested,
        Object.names, Name.areTexts]
    have tooHigh : toweringGraph.fits = false := by
      simp [toweringGraph, Graph.fits, Object.fits, Value.fieldsHeight, height_nested,
        Value.maxHeight]
    obtain ⟨wire, -, written, -⟩ := all toweringGraph ⟨_, by with_unfolding_all rfl⟩ json
    rw [Graph.write, Fault.unlessTooHigh, tooHigh] at written
    cases written
  · intro all
    have compiles : lengthyGraph.compile.toOption.isSome = true := by decide +kernel
    have fits : lengthyGraph.fits = true := by decide +kernel
    have wordless : (Json.write lengthyGraph.toValue).toOption.isNone = true := by decide +kernel
    have compiled : ∃ steps, lengthyGraph.compile = .ok steps := by
      cases compiled : lengthyGraph.compile with
      | ok steps => exact ⟨steps, rfl⟩
      | error failure =>
          rw [compiled] at compiles
          cases compiles
    obtain ⟨wire, text, written, worded, -⟩ := all lengthyGraph compiled (by decide +kernel) fits
    rw [Graph.write, Fault.unlessTooHigh, fits] at written
    obtain rfl : lengthyGraph.toValue = wire := Except.ok.inj written
    rw [worded] at wordless
    cases wordless

end Http.Service

end Workflow
