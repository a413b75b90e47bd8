import Workflow.Proofs.Handler.Login
import Workflow.Proofs.Value.Readable

/-!
# What a login reports

A login reports its outcome as a value, whatever its fields, the users and the hasher's verdict are,
unless what stands for the name of a collection cannot be looked for or shown.
-/

namespace Workflow.Handler

/-- The values by which a login reports its outcome. -/
inductive IsLoginReport : Value → Prop where
  | accepted (user : Document) : IsLoginReport (loginAccepted user)
  | refused (reason : String) : IsLoginReport (loginRefused reason)

/-- What goes wrong with a value as the name of a collection: an array or an object cannot be looked
for, and a long integer cannot be shown as the name of what is missing. -/
def nameFault? : Value → Option Fault
  | .arr _ => some (.unhashable .arr)
  | .obj _ => some (.unhashable .obj)
  | .int number => if Number.tooLong number then some .integerTooLong else none
  | _ => none

/-- A hasher, if there is one, answers every question about a password by yes or no. -/
def Decides (hasher : Option Hasher) : Prop :=
  ∀ known, hasher = some known → ∀ call password stored, ∃ flag,
    known.verify call password stored = .ok (.bool flag)

theorem decides_marking : Decides (some .marking) := by
  rintro _ ⟨⟩ call password stored
  cases password <;> cases stored <;> exact ⟨_, rfl⟩

variable {fields environment : Object} {request : Request} {world : World} {email password : Value}

/-- A value that is no text is not looked for, or is shown as the name of what is missing. -/
theorem missingName_cases {name : Value} (other : ∀ text, name ≠ .str text)
    (report : String → Value) :
    match nameFault? name with
    | some cause => ((hasCollection {} name).bind fun _ => name.text.map report) = .error cause
    | none => ∃ shown, ((hasCollection {} name).bind fun _ => name.text.map report) =
        .ok (report shown) := by
  cases name with
  | str text => exact absurd rfl (other text)
  | int number =>
      simp only [hasCollection, Value.text_int, Value.integerText, nameFault?]
      cases Number.tooLong number with
      | true => rfl
      | false => exact ⟨_, rfl⟩
  | arr items => rfl
  | obj fields => rfl
  | _ => exact ⟨_, rfl⟩

/-- The answer to a login that sees users is a report if the verdict is one. -/
theorem isLoginReport_answer (decides : Decides request.collaborators.hasher) (collection : String) :
    ∃ report, answer collection (view request world collection email password) = .ok report ∧
      IsLoginReport report := by
  unfold view
  rcases firstUser world.store collection email with _ | _ | user
  · exact ⟨_, rfl, .refused _⟩
  · exact ⟨_, rfl, .refused _⟩
  · cases present : request.collaborators.hasher with
    | none =>
        refine ⟨loginRefused "Invalid password", ?_, .refused _⟩
        simp only [Option.map_some, answer, sight, verdict, present]
        rfl
    | some hasher =>
        obtain ⟨flag, decided⟩ := decides hasher present world.calls password
          ((Value.field user "password").orElse (.str ""))
        refine ⟨if flag then loginAccepted user else loginRefused "Invalid password", ?_, ?_⟩
        · simp only [Option.map_some, answer, sight, verdict, present, decided]
          rfl
        · cases flag with
          | true => exact .accepted user
          | false => exact .refused _

/-- A login whose email and password can be resolved reports its outcome as a value and does not fail,
whatever the hasher decides, unless an email and a password are given and the collection's name is at
fault.  Then it fails with that fault. -/
theorem logIn_reports (fields environment : Object) (request : Request) (world : World)
    (email password : Value)
    (email_eq : Template.resolve environment (Value.field fields "email") = .ok email)
    (password_eq : Template.resolve environment (Value.field fields "password") = .ok password)
    (decides : Decides request.collaborators.hasher) :
    let name := (Value.field fields "collection").orElse (.str "users")
    let given := email.isTruthy && password.isTruthy
    (∀ cause, given = true → nameFault? name = some cause →
      (logIn fields environment request world).result = .error (.fault cause)) ∧
    ((given = true → nameFault? name = none) →
      ∃ report, (logIn fields environment request world).result = .ok report ∧
        IsLoginReport report) := by
  intro name given
  by_cases text : ∃ collection, name = .str collection
  · obtain ⟨collection, named⟩ := text
    have result_eq : (logIn fields environment request world).result = _ :=
      result_logIn ⟨named, email_eq, password_eq⟩
    refine ⟨fun cause _ faulty => ?_, fun _ => ?_⟩
    · rw [named] at faulty
      cases faulty
    · rw [result_eq]
      split
      · exact isLoginReport_answer decides collection
      · exact ⟨_, rfl, .refused _⟩
  · have other (collection : String) : name ≠ .str collection := fun named => text ⟨collection, named⟩
    have result_eq : (logIn fields environment request world).result = _ :=
      result_logIn_of_not_text rfl other email_eq password_eq
    have missing := missingName_cases other fun shown => loginRefused s!"{shown} model not found"
    refine ⟨fun cause complete faulty => ?_, fun nameable => ?_⟩
    · rw [faulty] at missing
      rw [result_eq, if_pos complete, missing]
      rfl
    · rw [result_eq]
      split
      · rename_i complete
        rw [nameable complete] at missing
        obtain ⟨shown, shown_eq⟩ := missing
        rw [shown_eq]
        exact ⟨_, rfl, .refused _⟩
      · exact ⟨_, rfl, .refused _⟩

/-- A login of Ada that gives a list of names for a collection. -/
def logInListed : Object :=
  [("email", .str "ada@example.com"), ("password", .str "secret"),
    ("collection", .arr [.str "users"])]

theorem resolve_logInListed :
    Template.resolve [] (Value.field logInListed "email") = .ok (.str "ada@example.com") ∧
      Template.resolve [] (Value.field logInListed "password") = .ok (.str "secret") := by
  constructor <;> with_unfolding_all rfl

/-- A login with a list of names for a collection fails; with no such name it reports. -/
theorem logIn_reports_listed :
    (logIn logInListed [] hashingRequest emptyUsers).result =
        .error (.fault (.unhashable .arr)) ∧
      ∃ report, (logIn (logInAda "secret") [] hashingRequest emptyUsers).result = .ok report ∧
        IsLoginReport report := by
  obtain ⟨email_eq, password_eq⟩ := resolve_logInListed
  constructor
  · exact (logIn_reports logInListed [] hashingRequest emptyUsers _ _ email_eq password_eq
      decides_marking).1 _ (by decide) rfl
  · exact (logIn_reports (logInAda "secret") [] hashingRequest emptyUsers _ _ email_eq password_eq
      decides_marking).2 fun _ => rfl

/-- A login does not always report its outcome as a value. -/
theorem logIn_not_always_reports :
    ¬ ∀ (fields environment : Object) (request : Request) (world : World) (email password : Value),
      Template.resolve environment (Value.field fields "email") = .ok email →
      Template.resolve environment (Value.field fields "password") = .ok password →
      Decides request.collaborators.hasher →
        ∃ report, (logIn fields environment request world).result = .ok report ∧
          IsLoginReport report := by
  intro reports
  obtain ⟨email_eq, password_eq⟩ := resolve_logInListed
  obtain ⟨report, reported, -⟩ := reports logInListed [] hashingRequest emptyUsers _ _ email_eq
    password_eq decides_marking
  have failed : (logIn logInListed [] hashingRequest emptyUsers).result =
      .error (.fault (.unhashable .arr)) := by
    with_unfolding_all rfl
  rw [failed] at reported
  cases reported

end Workflow.Handler
