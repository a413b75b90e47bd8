import Workflow.Handler.Access
import Workflow.Proofs.Outcome

/-!
# Accepted requests

The authentication step has a value only when the first authorization header bears a token and the
verifier accepts that token.
-/

namespace Workflow

/-- The first header with a name, in any letter case, begins with the bearer mark and goes on with
some text. -/
def Object.BearsToken (headers : Object) (rest : String) : Prop :=
  ∃ header, headers.find? (fun header => Text.lowercase header.1.shown = "authorization") =
      some header ∧
    header.2.text = .ok ("Bearer " ++ rest)

/-- The headers of a request bear a token that the verifier, asked in a world, accepts with
claims. -/
def Request.Accepted (request : Request) (world : World) (claims : Value) : Prop :=
  ∃ rest verifier, request.headers.BearsToken rest ∧
    request.collaborators.verifier = some verifier ∧
    verifier.verify world.calls (Text.strip rest) = .ok claims

namespace Handler

theorem after?_eq_some_iff {beginning text rest : String} :
    after? beginning text = some rest ↔ text = beginning ++ rest := by
  unfold after?
  simp only [List.isPrefixOf_iff_prefix, ← String.length_toList]
  constructor
  · intro found
    split at found
    · rename_i begins
      obtain ⟨more, text_eq⟩ := begins
      rw [← text_eq, List.drop_left, Option.some.injEq] at found
      rw [← String.toList_inj, ← text_eq, ← found, String.toList_append, String.toList_ofList]
    · cases found
  · rintro rfl
    rw [String.toList_append, if_pos (List.prefix_append _ _), List.drop_left,
      String.ofList_toList]

/-- The bearer token is the stripped text after the mark in the first authorization header. -/
theorem bearsToken_of_bearerToken {headers : Object} {token : String}
    (found : bearerToken headers = .ok token) :
    ∃ rest, headers.BearsToken rest ∧ token = Text.strip rest := by
  have wanted : Text.lowercase "authorization" = "authorization" := by decide +kernel
  unfold bearerToken Object.header at found
  simp only [wanted] at found
  cases search : headers.find? fun header => Text.lowercase header.1.shown = "authorization" with
  | none => simp [search, Value.isTruthy] at found
  | some header =>
      simp only [search] at found
      split at found
      · cases found
      · split at found
        · cases found
        · rename_i text text_eq
          split at found
          · rename_i rest text_after
            obtain rfl := after?_eq_some_iff.1 text_after
            exact ⟨rest, ⟨header, search, text_eq⟩, (Except.ok.inj found).symm⟩
          · cases found

/-- The authentication step asks the verifier about the bearer token. -/
theorem result_authenticate (fields environment : Object) (request : Request) (world : World) :
    (authenticate fields environment request world).result =
      (bearerToken request.headers >>= fun token =>
        match request.collaborators.verifier with
        | none => .error (.step (.auth .noVerifier))
        | some verifier => verifier.verify world.calls token) := by
  unfold authenticate ofAction
  dsimp only
  cases bearerToken request.headers with
  | error failure => rfl
  | ok token => cases request.collaborators.verifier <;> rfl

/-- The authentication step has a value only for an accepted request. -/
theorem accepted_of_authenticate {fields environment : Object} {request : Request} {world : World}
    {claims : Value} (ok : (authenticate fields environment request world).result = .ok claims) :
    request.Accepted world claims := by
  rw [result_authenticate] at ok
  obtain ⟨token, found, answered⟩ := Outcome.bind_eq_ok_iff.1 ok
  obtain ⟨rest, bears, rfl⟩ := bearsToken_of_bearerToken found
  split at answered
  · cases answered
  · rename_i verifier present
    exact ⟨rest, verifier, bears, present, answered⟩

end Handler

end Workflow
