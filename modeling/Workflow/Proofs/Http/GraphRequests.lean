import Workflow.Http.Service
import Workflow.Proofs.Graph.Refusal
import Workflow.Proofs.Handler.Access

/-!
# Requests that post a graph

A request to compile or to create a graph is answered with the steps, or with the compile error and
no change.  Two kinds of graphs break the service off instead: one in which a node names no text as
its output variable, and one whose steps hold a value too high to be written.

A body may hold half of a surrogate pair.  That is no character, and a text with it cannot be answered
with; such bodies are left out.
-/

namespace Workflow

open Workflow.Graph (CompileFailure)

namespace Json

/-- Half of a surrogate pair. -/
def isSurrogate (unit : Nat) : Bool := isHighSurrogate unit || isLowSurrogate unit

/-- Whether every half of a surrogate pair stands beside its other half. -/
def arePaired : List Nat → Bool
  | [] => true
  | high :: low :: rest =>
    if isHighSurrogate high && isLowSurrogate low then arePaired rest
    else !isSurrogate high && arePaired (low :: rest)
  | [unit] => !isSurrogate unit

/-- The code units of a JSON text, with every escape taken as the unit that it stands for. -/
def escapedUnits : List Char → List Nat
  | '\\' :: 'u' :: a :: b :: c :: d :: rest => (hexUnit? a b c d).toList ++ escapedUnits rest
  | '\\' :: _ :: rest => '\\'.toNat :: escapedUnits rest
  | c :: rest => c.toNat :: escapedUnits rest
  | [] => []

/-- Whether no half of a surrogate pair stands alone in a JSON text that arrives as bytes, encoded or
escaped. -/
def isPaired (bytes : List UInt8) : Bool :=
  let encoded :=
    match Encoding.detect bytes with
    | .utf8 => true
    | .utf16 lowFirst => arePaired ((Encoding.units16? lowFirst bytes).getD [])
    | .utf32 lowFirst => ((Encoding.units32? lowFirst bytes).getD []).all (!isSurrogate ·)
  encoded && arePaired (escapedUnits ((decode? bytes).getD []))

end Json

namespace Http

/-- The status of a reply, none if the service broke off. -/
def Reply.status? : Reply → Option Nat
  | .respond status _ => some status
  | .plain status _ => some status
  | .broken _ => none

theorem status_written (fits : Bool) (fields : Object) :
    (Service.written fits fields).status? = if fits then some 200 else none := by
  cases fits <;> rfl

/-- The first resource of a path below the service's part is found, since no page is posted to. -/
theorem target_of_below {start rest : String} {segments : List String} {operation : Operation}
    {others : Resources} (segmented : segmentsOf rest = some segments)
    (first : resourcesBelow segments = ("POST", .operation operation) :: others) :
    target start "POST" (start ++ rest) = .operation operation := by
  have found : (resourcesAt start (start ++ rest)).find? (·.1 = "POST") =
      some ("POST", .operation operation) := by
    simp only [resourcesAt, Handler.after?_eq_some_iff.2 rfl, Option.bind_some, segmented, first]
    split <;> simp
  simp only [target, found]

theorem preflight?_of_post (settings : Settings) {request : Request}
    (method : request.method = "POST") : Service.preflight? settings request = none := by
  unfold Service.preflight?
  split
  · simp [method]
  · rfl

/-- A request posts a graph to the service, to have it compiled or to have it stored as well; its body
consists of characters. -/
structure PostsGraph (service : Service) (request : Request) (graph : Graph) : Prop where
  method : request.method = "POST"
  path : request.path = service.settings.apiPrefix ++ "/graph/compile" ∨
    request.path = service.settings.apiPrefix ++ "/graph/create"
  body : ∃ content, request.readBody = .value content ∧
    Graph.read .modelAttributes content = .ok graph
  paired : ∀ text ∈ request.body, Json.isPaired (Text.Utf8.encode text) = true

namespace Service

variable {service : Service} {request : Request} {graph : Graph}

theorem withBody_of_read {α : Type} {read : Value → Record.Checked α} {content : Value} {item : α}
    (body : request.readBody = .value content) (readable : read content = .ok item)
    (serve : α → Answer) : service.withBody request read serve = serve item := by
  simp only [withBody, body, readable]
  rfl

theorem compileSegments : segmentsOf "/graph/compile" = some ["graph", "compile"] := by
  decide +kernel

theorem createSegments : segmentsOf "/graph/create" = some ["graph", "create"] := by
  decide +kernel

/-- A posted graph reaches the operation it was posted to. -/
theorem handle_of_postsGraph (posts : PostsGraph service request graph) :
    service.handle request = service.compile graph ∨
      service.handle request = service.createGraph graph := by
  obtain ⟨content, body, readable⟩ := posts.body
  rcases posts.path with path | path
  · left
    have routed : target service.settings.apiPrefix "POST" request.path = .operation .compile :=
      path ▸ target_of_below compileSegments rfl
    simp only [handle, preflight?_of_post _ posts.method, posts.method, routed, perform]
    exact withBody_of_read body readable _
  · right
    have routed : target service.settings.apiPrefix "POST" request.path = .operation .createGraph :=
      path ▸ target_of_below createSegments rfl
    simp only [handle, preflight?_of_post _ posts.method, posts.method, routed, perform]
    exact withBody_of_read body readable _

/-- A graph without a compiled form changes nothing. -/
theorem handle_of_compile_error (posts : PostsGraph service request graph)
    {failure : CompileFailure} (failed : graph.compile = .error failure) :
    service.handle request = (compileReply failure, service) := by
  rcases handle_of_postsGraph posts with handled | handled
  · simp only [handled, compile, failed, reply]
  · simp only [handled, createGraph, Engine.createGraph, failed]

/-- The steps of a graph are shown unless one of them is too high to be written. -/
theorem handle_of_compile_ok (posts : PostsGraph service request graph) {steps : List Step}
    (compiled : graph.compile = .ok steps) :
    (service.handle request).1.status? = if Step.listFits steps then some 200 else none := by
  rcases handle_of_postsGraph posts with handled | handled
  · simp only [handled, compile, compiled, reply, status_written]
  · simp only [handled, createGraph, Engine.createGraph, compiled, status_written]

/-- A graph compiles or is rejected with a compile error, unless one of its nodes names no text as
its output variable.  A request that posts it is answered with the steps or with the error, unless a
node names no text or a step is too high to be written.  An error changes nothing, and neither does
a name that is no text. -/
theorem graph_compiles_or_rejected (graph : Graph) :
    (((∃ steps, graph.compile = .ok steps) ∨
        ∃ error, graph.compile = .error (.rejected error)) ↔ ¬ graph.Misnamed) ∧
      ∀ (service : Service) (request : Request), PostsGraph service request graph →
        (((service.handle request).1.status? = some 200 ∨
            (service.handle request).1.status? = some 400) ↔
          ¬ graph.Misnamed ∧ ∀ steps, graph.compile = .ok steps → Step.listFits steps) ∧
        ((service.handle request).1.status? = some 400 →
          ∃ error, graph.compile = .error (.rejected error) ∧
            service.handle request = (.detail 400 (.obj error.report.toObject), service)) ∧
        (graph.Misnamed → service.handle request = (.broken "ValidationError", service)) := by
  rcases graph.compile_cases with ⟨refused, error, failed⟩ | ⟨misnamed, failed⟩ |
    ⟨named, steps, compiled⟩
  · have named : ¬ graph.Misnamed := fun misnamed => refused ⟨misnamed.1, misnamed.2.1⟩
    refine ⟨iff_of_true (.inr ⟨error, failed⟩) named, ?_⟩
    intro service request posts
    have handled := handle_of_compile_error posts failed
    refine ⟨iff_of_true ?_ ⟨named, ?_⟩, fun _ => ⟨error, failed, handled⟩, (absurd · named)⟩
    · right
      rw [handled]
      rfl
    · intro steps compiled
      cases failed.symm.trans compiled
  · refine ⟨iff_of_false ?_ (not_not_intro misnamed), ?_⟩
    · rintro (⟨steps, compiled⟩ | ⟨error, rejected⟩)
      · cases failed.symm.trans compiled
      · cases failed.symm.trans rejected
    · intro service request posts
      have handled := handle_of_compile_error posts failed
      have unanswered : (service.handle request).1.status? = none := by
        rw [handled]
        rfl
      refine ⟨iff_of_false ?_ (fun spared => spared.1 misnamed), ?_, fun _ => handled⟩
      · simp [unanswered]
      · simp [unanswered]
  · have named : ¬ graph.Misnamed := by
      rintro ⟨-, -, node, member, misnames⟩
      exact named node member misnames
    refine ⟨iff_of_true (.inl ⟨steps, compiled⟩) named, ?_⟩
    intro service request posts
    have status := handle_of_compile_ok posts compiled
    refine ⟨?_, ?_, (absurd · named)⟩
    · rw [status]
      cases fits : Step.listFits steps with
      | true => simp [named, compiled, fits]
      | false => simp [compiled, fits]
    · rw [status]
      split <;> simp

/-- A search whose result is to be bound to a number passes all checks. -/
def numberedSearch : Graph := { nodes := [⟨"a", .find, [("outputVar", .int 5)]⟩] }

/-- The value that denotes that search. -/
def numberedSearchValue : Value :=
  .obj [("nodes", .arr [.obj [("id", .str "a"), ("type", .str "dbFind"),
    ("fields", .obj [("outputVar", .int 5)])]])]

/-- The JSON text of that value. -/
def numberedSearchText : String :=
  "\x7b\"nodes\":[\x7b\"id\":\"a\",\"type\":\"dbFind\",\"fields\":\x7b\"outputVar\":5\x7d\x7d]\x7d"

/-- The characters of that text. -/
def numberedSearchChars : List Char :=
  ['{', '"', 'n', 'o', 'd', 'e', 's', '"', ':', '[', '{', '"', 'i', 'd', '"', ':', '"', 'a', '"', ',',
    '"', 't', 'y', 'p', 'e', '"', ':', '"', 'd', 'b', 'F', 'i', 'n', 'd', '"', ',', '"', 'f', 'i', 'e',
    'l', 'd', 's', '"', ':', '{', '"', 'o', 'u', 't', 'p', 'u', 't', 'V', 'a', 'r', '"', ':', '5', '}',
    '}', ']', '}']

/-- The request to compile that search. -/
def postNumberedSearch : Request where
  method := "POST"
  path := "/api/v1/graph/compile"
  body := some numberedSearchText

theorem readBody_postNumberedSearch : postNumberedSearch.readBody = .value numberedSearchValue := by
  have announced : postNumberedSearch.readBody = readJson numberedSearchText := by
    simp [Request.readBody, postNumberedSearch, numberedSearchText, Request.announcesJson,
      Request.header?]
  have decoded : Json.decode? (Text.Utf8.encode numberedSearchText) =
      some numberedSearchChars := by
    decide +kernel
  have read : Json.readChars .values Json.readingDepth numberedSearchChars =
      .ok numberedSearchValue := by
    with_unfolding_all rfl
  simp only [announced, readJson, decoded, String.toList_ofList, Json.read, Json.readWith, read]
  rfl

theorem postNumberedSearch_postsGraph : PostsGraph {} postNumberedSearch numberedSearch where
  method := rfl
  path := .inl (by decide +kernel)
  body := ⟨numberedSearchValue, readBody_postNumberedSearch, by with_unfolding_all rfl⟩
  paired := by
    rintro _ ⟨⟩
    decide +kernel

theorem numberedSearch_misnamed : numberedSearch.Misnamed :=
  Graph.compile_eq_misnamed_iff.1 (by with_unfolding_all rfl)

theorem graph_compiles_or_rejected_number :
    PostsGraph {} postNumberedSearch numberedSearch ∧
      Service.handle {} postNumberedSearch = (.broken "ValidationError", {}) :=
  ⟨postNumberedSearch_postsGraph,
    ((graph_compiles_or_rejected numberedSearch).2 {} postNumberedSearch
      postNumberedSearch_postsGraph).2.2 numberedSearch_misnamed⟩

/-- Not every graph compiles or is rejected with a compile error. -/
theorem graph_not_always_compiled_or_rejected :
    ¬ ∀ graph : Graph, (∃ steps, graph.compile = .ok steps) ∨
      ∃ error, graph.compile = .error (.rejected error) := by
  intro all
  have missing := Graph.compile_eq_misnamed_iff.2 numberedSearch_misnamed
  rcases all numberedSearch with ⟨steps, compiled⟩ | ⟨error, rejected⟩
  · cases missing.symm.trans compiled
  · cases missing.symm.trans rejected

end Service

end Http

end Workflow
