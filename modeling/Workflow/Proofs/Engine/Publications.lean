import Workflow.Proofs.Engine.Ending
import Workflow.Proofs.Engine.Keyed
import Workflow.Proofs.Engine.Operation
import Workflow.Proofs.Slug

/-!
# Graphs and publications

The graphs of an engine are numbered in the order in which they were created, and each is exposed
under the path that its id and the slug of a name make up.  Neither an id nor a slug has a slash, so
a path tells both.
-/

namespace Workflow

/-! ## Ids and paths -/

/-- The id of the graph with a number. -/
def StoredGraph.numbered (number : Nat) : String := s!"graph_{number}"

theorem StoredGraph.numbered_injective {number other : Nat}
    (same : numbered number = numbered other) : number = other := by
  have digits : number.repr = other.repr := (String.append_right_inj "graph_").1 same
  have read := congrArg (fun digits => Nat.ofDigitChars 10 digits.toList 0) digits
  simpa using read

/-- The id of a graph has no slash. -/
theorem StoredGraph.slash_not_mem_numbered (number : Nat) : '/' ∉ (numbered number).toList := by
  intro member
  have spelled : (numbered number).toList =
      ['g', 'r', 'a', 'p', 'h', '_'] ++ Nat.toDigits 10 number := by
    simp [numbered]
    rfl
  rw [spelled, List.mem_append] at member
  rcases member with word | digit
  · simp at word
  · have isDigit : '/'.isDigit = true := Nat.isDigit_of_mem_toDigits (by decide) (by decide) digit
    exact absurd isDigit (by decide)

/-- The publication of a graph under a name. -/
def Publication.ofName (graphId name : String) : Publication where
  graphId := graphId
  name := name
  slug := Slug.ofName name
  path := pathOf graphId (Slug.ofName name)

/-- A path made up of an id and a slug without slashes tells both. -/
theorem Publication.pathOf_injective {graphId slug otherId otherSlug : String}
    (plainId : '/' ∉ graphId.toList) (plainSlug : '/' ∉ slug.toList)
    (same : pathOf graphId slug = pathOf otherId otherSlug) :
    graphId = otherId ∧ slug = otherSlug := by
  have chars : graphId.toList ++ '/' :: slug.toList = otherId.toList ++ '/' :: otherSlug.toList := by
    have all := congrArg String.toList same
    simpa [pathOf] using all
  -- A part by which one id were longer than the other would hold the slash after the shorter one.
  rcases List.append_eq_append_iff.1 chars with ⟨part, id_eq, slug_eq⟩ | ⟨part, id_eq, slug_eq⟩
  · cases part with
    | nil =>
        rw [List.append_nil] at id_eq
        exact ⟨(String.toList_inj.1 id_eq).symm, String.toList_inj.1 (List.cons.inj slug_eq).2⟩
    | cons c part =>
        refine absurd ?_ plainSlug
        rw [(List.cons.inj slug_eq).2]
        exact List.mem_append_right part List.mem_cons_self
  · cases part with
    | nil =>
        rw [List.append_nil] at id_eq
        exact ⟨String.toList_inj.1 id_eq, (String.toList_inj.1 (List.cons.inj slug_eq).2).symm⟩
    | cons c part =>
        refine absurd ?_ plainId
        rw [id_eq, ← (List.cons.inj slug_eq).1]
        exact List.mem_append_right _ List.mem_cons_self

namespace Engine

/-! ## What operations leave alone -/

theorem execute_keeps (engine : Engine) (steps : List Step) (input headers : Value)
    (executionId : Option String) :
    (engine.execute steps input headers executionId).2.graphs = engine.graphs ∧
      (engine.execute steps input headers executionId).2.publications = engine.publications := by
  rw [execute_snd]
  exact ⟨rfl, rfl⟩

/-- A run touches neither graphs nor publications, however it ends. -/
theorem runSteps_keeps (engine : Engine) (steps : List Step) (input headers : Value)
    (graphId : Option String) :
    (engine.runSteps steps input headers graphId).2.graphs = engine.graphs ∧
      (engine.runSteps steps input headers graphId).2.publications = engine.publications := by
  have unchanged := execute_keeps engine steps input headers none
  cases ended : engine.execute steps input headers none with
  | mk outcome after =>
      rw [ended] at unchanged
      cases outcome with
      | error failure =>
          rw [runSteps_eq_of_error graphId ended]
          exact unchanged
      | ok result =>
          rw [runSteps_eq_ok_iff.2 ⟨result, after, _, ended, rfl, rfl, rfl⟩]
          exact unchanged

theorem runGraph_keeps (engine : Engine) (id : String) (input headers : Value) :
    (engine.runGraph id input headers).2.graphs = engine.graphs ∧
      (engine.runGraph id input headers).2.publications = engine.publications := by
  unfold runGraph
  split
  · exact ⟨rfl, rfl⟩
  · exact runSteps_keeps engine _ input headers (some id)

/-- Whether an operation has failed. -/
def Answer.isRaised : Answer → Bool
  | .stored (.error _) | .published (.error _) | .executed (.error _) | .ran (.error _) => true
  | _ => false

/-- An operation that fails leaves graphs and publications as they are. -/
theorem perform_keeps_of_raised (engine : Engine) (operation : Operation)
    (raised : (engine.perform operation).1.isRaised = true) :
    (engine.perform operation).2.graphs = engine.graphs ∧
      (engine.perform operation).2.publications = engine.publications := by
  cases operation with
  | createGraph graph =>
      simp only [perform, createGraph] at raised ⊢
      split at raised
      · exact ⟨rfl, rfl⟩
      · cases raised
  | publish graphId name =>
      simp only [perform, publish] at raised ⊢
      by_cases unknown : (engine.graph? graphId).isNone = true
      · rw [if_pos unknown]
        exact ⟨rfl, rfl⟩
      · rw [if_neg unknown] at raised ⊢
        by_cases unusable : Slug.ofName name = ""
        · rw [if_pos unusable]
          exact ⟨rfl, rfl⟩
        · rw [if_neg unusable] at raised
          cases raised
  | execute steps input headers executionId =>
      exact execute_keeps engine steps input headers executionId
  | runSteps steps input headers graphId => exact runSteps_keeps engine steps input headers graphId
  | runGraph id input headers => exact runGraph_keeps engine id input headers
  | register kind handler => exact ⟨rfl, rfl⟩
  | onWorld happening => exact ⟨rfl, rfl⟩

/-! ## Accounts -/

/-- The graph that an operation has stored. -/
def Answer.stored? : Answer → Option StoredGraph
  | .stored (.ok kept) => some kept
  | _ => none

/-- An operation with its answer has exposed a graph under a path. -/
def Exposes (event : Operation × Answer) (path : String) (publication : Publication) : Prop :=
  ∃ graphId name, event = (.publish graphId name, .published (.ok publication)) ∧
    Publication.pathOf graphId (Slug.ofName name) = path

/-- A publication is the last one under a path. -/
def IsLatest (past : List (Operation × Answer)) (path : String) (publication : Publication) :
    Prop :=
  ∃ before event after, past = before ++ event :: after ∧ Exposes event path publication ∧
    ∀ later ∈ after, ∀ other, ¬ Exposes later path other

theorem isLatest_concat_iff {past : List (Operation × Answer)} {event : Operation × Answer}
    {path : String} {publication : Publication} :
    IsLatest (past ++ [event]) path publication ↔
      Exposes event path publication ∨
        (∀ other, ¬ Exposes event path other) ∧ IsLatest past path publication := by
  constructor
  · rintro ⟨before, middle, after, split_eq, exposes, silent⟩
    rcases List.eq_nil_or_concat after with rfl | ⟨shorter, last, rfl⟩
    · obtain ⟨-, rfl⟩ := List.append_singleton_inj.1 split_eq
      exact .inl exposes
    · rw [List.concat_eq_append, ← List.cons_append, ← List.append_assoc] at split_eq
      obtain ⟨past_eq, rfl⟩ := List.append_singleton_inj.1 split_eq
      refine .inr ⟨silent event (by simp), before, middle, shorter, past_eq, exposes, ?_⟩
      intro later member
      exact silent later (by simp [member])
  · rintro (exposes | ⟨silent, before, middle, after, rfl, exposes, silentAfter⟩)
    · exact ⟨past, event, [], rfl, exposes, by simp⟩
    · refine ⟨before, middle, after ++ [event], by simp, exposes, ?_⟩
      intro later member
      rcases List.mem_append.1 member with earlier | last
      · exact silentAfter later earlier
      · rw [List.mem_singleton.1 last]
        exact silent

/-- Where something has been exposed under a path, there is a last publication under it. -/
theorem exists_isLatest {past : List (Operation × Answer)} {path : String}
    (exposed : ∃ event ∈ past, ∃ publication, Exposes event path publication) :
    ∃ publication, IsLatest past path publication := by
  induction past using List.reverseRecOn with
  | nil => simp at exposed
  | append_singleton past last inductionHypothesis =>
      by_cases here : ∃ publication, Exposes last path publication
      · rcases here with ⟨publication, exposes⟩
        exact ⟨publication, isLatest_concat_iff.2 (.inl exposes)⟩
      · rcases exposed with ⟨event, member, publication, exposes⟩
        rcases List.mem_append.1 member with earlier | same
        · rcases inductionHypothesis ⟨event, earlier, publication, exposes⟩ with ⟨latest, isLatest⟩
          exact ⟨latest, isLatest_concat_iff.2 (.inr ⟨not_exists.1 here, isLatest⟩)⟩
        · obtain rfl := List.mem_singleton.1 same
          exact absurd ⟨publication, exposes⟩ here

/-- What the graphs and publications of an engine have to do with the operations so far. -/
structure Accounts (past : List (Operation × Answer)) (engine : Engine) : Prop where
  ids_eq : engine.graphs.map (·.1) =
    (List.range engine.graphs.length).map fun position => StoredGraph.numbered (position + 1)
  stored_eq : engine.graphs.map (·.2) = past.filterMap (·.2.stored?)
  compiled : ∀ kept ∈ engine.graphs,
    kept.2.id = kept.1 ∧ kept.2.graph.compile = .ok kept.2.steps
  belongs : ∀ kept ∈ engine.publications, kept.2.graphId ∈ engine.graphs.map (·.1)
  known : ∀ graphId name publication,
    (.publish graphId name, .published (.ok publication)) ∈ past →
      graphId ∈ engine.graphs.map (·.1) ∧ publication = .ofName graphId name
  latest_iff : ∀ path publication,
    keyed path engine.publications = some publication ↔ IsLatest past path publication

variable {past : List (Operation × Answer)} {engine after : Engine}

/-- An operation that stores and exposes nothing keeps the accounts. -/
theorem Accounts.idle (accounts : Accounts past engine) {event : Operation × Answer}
    (kept : after.graphs = engine.graphs ∧ after.publications = engine.publications)
    (stored_eq : event.2.stored? = none)
    (exposes : ∀ graphId name publication,
      event ≠ (.publish graphId name, .published (.ok publication))) :
    Accounts (past ++ [event]) after where
  ids_eq := by rw [kept.1, accounts.ids_eq]
  stored_eq := by
    rw [kept.1, accounts.stored_eq, List.filterMap_append]
    simp [stored_eq]
  compiled := by
    rw [kept.1]
    exact accounts.compiled
  belongs := by
    rw [kept.1, kept.2]
    exact accounts.belongs
  known := by
    intro graphId name publication member
    rw [kept.1]
    rcases List.mem_append.1 member with earlier | last
    · exact accounts.known graphId name publication earlier
    · exact absurd (List.mem_singleton.1 last).symm (exposes graphId name publication)
  latest_iff := by
    intro path publication
    have silent : ∀ other, ¬ Exposes event path other := by
      rintro other ⟨graphId, name, same, -⟩
      exact exposes graphId name other same
    rw [kept.2, accounts.latest_iff, isLatest_concat_iff]
    constructor
    · intro latest
      exact .inr ⟨silent, latest⟩
    · rintro (here | ⟨-, latest⟩)
      · exact absurd here (silent publication)
      · exact latest

/-- The number after the last one is not taken. -/
theorem Accounts.numbered_not_mem (accounts : Accounts past engine) :
    StoredGraph.numbered (engine.graphs.length + 1) ∉ engine.graphs.map (·.1) := by
  rw [accounts.ids_eq]
  intro member
  rcases List.mem_map.1 member with ⟨position, inside, same⟩
  have position_eq := StoredGraph.numbered_injective same
  rw [List.mem_range] at inside
  omega

/-- A graph that is stored comes last, under the next number. -/
theorem Accounts.store (accounts : Accounts past engine) {graph : Graph} {steps : List Step}
    (compiled : graph.compile = .ok steps) :
    let id := StoredGraph.numbered (engine.graphs.length + 1)
    let stored : StoredGraph := { id, graph, steps }
    Accounts (past ++ [(.createGraph graph, .stored (.ok stored))])
      { engine with graphs := putKeyed id stored engine.graphs } := by
  intro id stored
  have graphs_eq : putKeyed id stored engine.graphs = engine.graphs ++ [(id, stored)] :=
    putKeyed_of_not_mem stored accounts.numbered_not_mem
  rw [graphs_eq]
  constructor
  · simp only [List.map_append, List.length_append, List.length_singleton, List.range_succ,
      accounts.ids_eq]
    rfl
  · simp [accounts.stored_eq, Answer.stored?]
  · intro kept member
    rcases List.mem_append.1 member with earlier | last
    · exact accounts.compiled kept earlier
    · rw [List.mem_singleton.1 last]
      exact ⟨rfl, compiled⟩
  · intro kept member
    rw [List.map_append]
    exact List.mem_append_left _ (accounts.belongs kept member)
  · intro graphId name publication member
    rcases accounts.known graphId name publication (by simpa using member) with ⟨known, same⟩
    rw [List.map_append]
    exact ⟨List.mem_append_left _ known, same⟩
  · intro path publication
    have silent : ∀ other, ¬ Exposes (.createGraph graph, .stored (.ok stored)) path other := by
      rintro other ⟨_, _, same, -⟩
      cases same
    rw [isLatest_concat_iff, accounts.latest_iff]
    constructor
    · intro latest
      exact .inr ⟨silent, latest⟩
    · rintro (here | ⟨-, latest⟩)
      · exact absurd here (silent publication)
      · exact latest

/-- A graph that is exposed is found under its path, and everything else as before. -/
theorem Accounts.publish (accounts : Accounts past engine) {graphId name : String}
    (stored : (engine.graph? graphId).isSome = true) :
    let publication := Publication.ofName graphId name
    Accounts (past ++ [(.publish graphId name, .published (.ok publication))])
      { engine with
        publications := putKeyed publication.path publication engine.publications } := by
  intro publication
  have kept : graphId ∈ engine.graphs.map (·.1) := by
    rcases Option.isSome_iff_exists.1 stored with ⟨found, found_eq⟩
    exact List.mem_map_of_mem (mem_of_keyed_eq_some found_eq)
  constructor
  · exact accounts.ids_eq
  · simp [accounts.stored_eq, Answer.stored?]
  · exact accounts.compiled
  · intro entry member
    have mem_putKeyed (entries : List (String × Publication))
        (member : entry ∈ putKeyed publication.path publication entries) :
        entry.2 = publication ∨ entry ∈ entries := by
      induction entries with
      | nil => simp_all [putKeyed]
      | cons first rest inductionHypothesis =>
          unfold putKeyed at member
          split at member
          · rcases List.mem_cons.1 member with rfl | later
            · exact .inl rfl
            · exact .inr (List.mem_cons_of_mem _ later)
          · rcases List.mem_cons.1 member with rfl | later
            · exact .inr List.mem_cons_self
            · exact (inductionHypothesis later).imp_right (List.mem_cons_of_mem _)
    rcases mem_putKeyed engine.publications member with new | old
    · rw [new]
      exact kept
    · exact accounts.belongs entry old
  · intro otherId otherName other member
    rcases List.mem_append.1 member with earlier | last
    · exact accounts.known otherId otherName other earlier
    · cases List.mem_singleton.1 last
      exact ⟨kept, rfl⟩
  · intro wanted other
    rw [isLatest_concat_iff, keyed_putKeyed]
    by_cases same : publication.path = wanted
    · rw [if_pos same]
      constructor
      · rintro ⟨⟩
        exact .inl ⟨graphId, name, rfl, same⟩
      · rintro (⟨_, _, event_eq, -⟩ | ⟨silent, -⟩)
        · cases event_eq
          rfl
        · exact absurd ⟨graphId, name, rfl, same⟩ (silent publication)
    · rw [if_neg same, accounts.latest_iff]
      constructor
      · intro latest
        refine .inr ⟨?_, latest⟩
        rintro _ ⟨_, _, event_eq, path_eq⟩
        cases event_eq
        exact same path_eq
      · rintro (⟨_, _, event_eq, path_eq⟩ | ⟨-, latest⟩)
        · cases event_eq
          exact absurd path_eq same
        · exact latest

/-- Every operation keeps the accounts. -/
theorem Accounts.perform (accounts : Accounts past engine) (operation : Operation) :
    Accounts (past ++ [(operation, (engine.perform operation).1)])
      (engine.perform operation).2 := by
  cases operation with
  | createGraph graph =>
      simp only [Engine.perform, createGraph]
      split
      · exact accounts.idle ⟨rfl, rfl⟩ rfl (by simp)
      · rename_i steps compiled
        exact accounts.store compiled
  | publish graphId name =>
      simp only [Engine.perform, Engine.publish]
      split
      · exact accounts.idle ⟨rfl, rfl⟩ rfl (by simp)
      · rename_i known
        split
        · exact accounts.idle ⟨rfl, rfl⟩ rfl (by simp)
        · exact accounts.publish (by simpa [Option.isSome_iff_ne_none] using known)
  | execute steps input headers executionId =>
      exact accounts.idle (execute_keeps engine steps input headers executionId) rfl (by simp)
  | runSteps steps input headers graphId =>
      exact accounts.idle (runSteps_keeps engine steps input headers graphId) rfl (by simp)
  | runGraph id input headers =>
      exact accounts.idle (runGraph_keeps engine id input headers) rfl (by simp)
  | register kind handler => exact accounts.idle ⟨rfl, rfl⟩ rfl (by simp)
  | onWorld happening => exact accounts.idle ⟨rfl, rfl⟩ rfl (by simp)

theorem Accounts.onSink (accounts : Accounts past engine) (happening : Sink → Sink) :
    Accounts past (engine.onSink happening) :=
  ⟨accounts.ids_eq, accounts.stored_eq, accounts.compiled, accounts.belongs, accounts.known,
    accounts.latest_iff⟩

/-- So does every history. -/
theorem Accounts.performAll (accounts : Accounts past engine) (happens : Nat → Sink → Sink)
    (operations : List Operation) :
    Accounts (past ++ operations.zip (Engine.performAll happens engine operations).1)
      (Engine.performAll happens engine operations).2 := by
  induction operations generalizing past engine happens with
  | nil => simpa [Engine.performAll] using accounts
  | cons operation rest inductionHypothesis =>
      have next := inductionHypothesis ((accounts.onSink (happens 0)).perform operation)
        fun position => happens (position + 1)
      rw [List.append_assoc, List.singleton_append] at next
      exact next

/-- No operation takes away a graph or puts another one in its place. -/
theorem Accounts.graphs_perform (accounts : Accounts past engine) (operation : Operation) :
    engine.graphs <+: (engine.perform operation).2.graphs := by
  cases operation with
  | createGraph graph =>
      simp only [Engine.perform, createGraph]
      split
      · exact List.prefix_refl _
      · rename_i steps compiled
        have fresh := accounts.numbered_not_mem
        exact putKeyed_of_not_mem _ fresh ▸ List.prefix_append _ _
  | publish graphId name =>
      rcases exists_publish engine graphId name with ⟨publications, published⟩
      simp only [Engine.perform, published]
      exact List.prefix_refl _
  | execute steps input headers executionId =>
      exact (execute_keeps engine steps input headers executionId).1 ▸ List.prefix_refl _
  | runSteps steps input headers graphId =>
      exact (runSteps_keeps engine steps input headers graphId).1 ▸ List.prefix_refl _
  | runGraph id input headers =>
      exact (runGraph_keeps engine id input headers).1 ▸ List.prefix_refl _
  | register kind handler => exact List.prefix_refl _
  | onWorld happening => exact List.prefix_refl _

theorem Accounts.graphs_performAll (accounts : Accounts past engine) (happens : Nat → Sink → Sink)
    (operations : List Operation) :
    engine.graphs <+: (Engine.performAll happens engine operations).2.graphs := by
  induction operations generalizing past engine happens with
  | nil => exact List.prefix_refl _
  | cons operation rest inductionHypothesis =>
      have onSink := accounts.onSink (happens 0)
      exact (onSink.graphs_perform operation).trans
        (inductionHypothesis (onSink.perform operation) fun position => happens (position + 1))

/-- Under a path stands the last publication that a history has made of the graph and the slug that
the path is made up of. -/
theorem Accounts.publication?_eq_some_iff (accounts : Accounts past engine) (graphId slug : String)
    (publication : Publication) :
    engine.publication? graphId slug = some publication ↔
      ∃ before after name,
        past = before ++ (.publish graphId name, .published (.ok publication)) :: after ∧
        publication = .ofName graphId name ∧ Slug.ofName name = slug ∧
        ∀ otherName other, (.publish graphId otherName, .published (.ok other)) ∈ after →
          Slug.ofName otherName ≠ slug := by
  rw [publication?, accounts.latest_iff]
  constructor
  · rintro ⟨before, _, after, split_eq, ⟨otherId, name, rfl, path_eq⟩, silent⟩
    have member : (.publish otherId name, .published (.ok publication)) ∈ past := by
      rw [split_eq]
      exact List.mem_append_right before List.mem_cons_self
    rcases accounts.known otherId name publication member with ⟨known, same⟩
    have plain : '/' ∉ otherId.toList := by
      rw [accounts.ids_eq] at known
      rcases List.mem_map.1 known with ⟨position, -, rfl⟩
      exact StoredGraph.slash_not_mem_numbered _
    obtain ⟨rfl, rfl⟩ := Publication.pathOf_injective plain (Slug.slash_not_mem_ofName name) path_eq
    refine ⟨before, after, name, split_eq, same, rfl, ?_⟩
    intro otherName other later clash
    exact silent _ later other ⟨otherId, otherName, rfl, congrArg _ clash⟩
  · rintro ⟨before, after, name, split_eq, -, rfl, silent⟩
    refine ⟨before, _, after, split_eq, ⟨graphId, name, rfl, rfl⟩, ?_⟩
    rintro later member other ⟨otherId, otherName, rfl, path_eq⟩
    -- The path is that of a stored graph, whose id has no slash, so both ids are the same.
    have known := (accounts.known otherId otherName other (by simp [split_eq, member])).1
    have plain : '/' ∉ otherId.toList := by
      rw [accounts.ids_eq] at known
      rcases List.mem_map.1 known with ⟨position, -, rfl⟩
      exact StoredGraph.slash_not_mem_numbered _
    obtain ⟨rfl, clash⟩ :=
      Publication.pathOf_injective plain (Slug.slash_not_mem_ofName otherName) path_eq
    exact silent otherName other member clash

/-- Throughout every history of an engine without graphs and publications, the graphs are those that
were created, numbered in the order of their creation, and never replaced; each is kept with its
compiled form; and a publication belongs to one of them.  Something is found under an id and a slug,
whatever texts these are, exactly when the graph was exposed under a name with that slug, and it is
the last such publication.  An operation that fails changes neither graphs nor publications. -/
theorem publications_of_history (engine : Engine) (noGraphs : engine.graphs = [])
    (noPublications : engine.publications = []) (happens happenings : Nat → Sink → Sink)
    (operations later : List Operation) (answers : List Answer) (last : Engine)
    (performed : performAll happens engine operations = (answers, last)) :
    last.graphs.map (·.1) =
        (List.range last.graphs.length).map (fun position => StoredGraph.numbered (position + 1)) ∧
      last.graphs.map (·.2) = (operations.zip answers).filterMap (·.2.stored?) ∧
      (last.graphs.map (·.1)).Nodup ∧
      last.graphs <+: (performAll happenings last later).2.graphs ∧
      (∀ kept ∈ last.graphs, kept.2.id = kept.1 ∧ kept.2.graph.compile = .ok kept.2.steps) ∧
      (∀ kept ∈ last.publications, (last.graph? kept.2.graphId).isSome = true) ∧
      (∀ graphId slug,
        ((last.publication? graphId slug).isSome = true ↔ ∃ name publication,
          (.publish graphId name, .published (.ok publication)) ∈ operations.zip answers ∧
            Slug.ofName name = slug) ∧
        ∀ publication, last.publication? graphId slug = some publication ↔
          ∃ before after name,
            operations.zip answers =
              before ++ (.publish graphId name, .published (.ok publication)) :: after ∧
            publication = .ofName graphId name ∧ Slug.ofName name = slug ∧
            ∀ otherName other, (.publish graphId otherName, .published (.ok other)) ∈ after →
              Slug.ofName otherName ≠ slug) ∧
      ∀ operation, (last.perform operation).1.isRaised = true →
        (last.perform operation).2.graphs = last.graphs ∧
          (last.perform operation).2.publications = last.publications := by
  have begun : Accounts [] engine := by
    constructor
    · simp [noGraphs]
    · simp [noGraphs]
    · simp [noGraphs]
    · simp [noPublications]
    · simp
    · simp [noPublications, keyed, IsLatest]
  have accounts := begun.performAll happens operations
  rw [performed, List.nil_append] at accounts
  have nodup : (last.graphs.map (·.1)).Nodup := by
    rw [accounts.ids_eq]
    refine List.Nodup.map ?_ List.nodup_range
    intro position other same
    exact Nat.succ.inj (StoredGraph.numbered_injective same)
  refine ⟨accounts.ids_eq, accounts.stored_eq, nodup, accounts.graphs_performAll happenings later,
    accounts.compiled, ?_, ?_, perform_keeps_of_raised last⟩
  · intro kept member
    rcases List.mem_map.1 (accounts.belongs kept member) with ⟨⟨id, stored⟩, inGraphs, rfl⟩
    rw [graph?, keyed_eq_some_of_mem nodup inGraphs]
    rfl
  · intro graphId slug
    refine ⟨?_, accounts.publication?_eq_some_iff graphId slug⟩
    constructor
    · intro found
      rcases Option.isSome_iff_exists.1 found with ⟨publication, found⟩
      rcases (accounts.publication?_eq_some_iff graphId slug publication).1 found with
        ⟨before, after, name, split_eq, -, slug_eq, -⟩
      exact ⟨name, publication, by simp [split_eq], slug_eq⟩
    · rintro ⟨name, publication, member, slug_eq⟩
      rcases exists_isLatest ⟨_, member, publication, graphId, name, rfl, congrArg _ slug_eq⟩ with
        ⟨latest, isLatest⟩
      rw [publication?, (accounts.latest_iff _ latest).2 isLatest]
      rfl

/-- A graph is stored and exposed under two names with one slug; another one is not there. -/
def exposures : List Operation :=
  [.createGraph { name := "nothing", nodes := [], edges := [] }, .publish "graph_1" "Sign up!",
    .publish "graph_2" "Sign up!", .publish "graph_1" " sign UP"]

/-- What is found under the slug is the publication under the second name. -/
theorem publications_of_history_exposures :
    (performAll (fun _ sink => sink) {} exposures).2.publication? "graph_1" "sign-up" =
        some (.ofName "graph_1" " sign UP") ∧
      ∃ before after name,
        exposures.zip (performAll (fun _ sink => sink) {} exposures).1 =
          before ++ (.publish "graph_1" name,
            .published (.ok (.ofName "graph_1" " sign UP"))) :: after ∧
        Slug.ofName name = "sign-up" := by
  have found : (performAll (fun _ sink => sink) {} exposures).2.publication? "graph_1" "sign-up" =
      some (.ofName "graph_1" " sign UP") := by
    decide +kernel
  rcases publications_of_history {} rfl rfl (fun _ sink => sink) (fun _ sink => sink) exposures []
    _ _ rfl with ⟨-, -, -, -, -, -, exposed, -⟩
  rcases ((exposed "graph_1" "sign-up").2 _).1 found with
    ⟨before, after, name, split_eq, -, slug_eq, -⟩
  exact ⟨found, before, after, name, split_eq, slug_eq⟩

end Engine

end Workflow
