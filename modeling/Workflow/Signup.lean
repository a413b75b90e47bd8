import Workflow.Graph.Basic

/-!
# The bundled sign-up workflow

A small workflow that comes with the service: collect a name, an email and a password, validate
them, store the user and send a welcome mail.
-/

namespace Workflow.Signup

/-- A declaration of an input variable. -/
def declare (name : String) : Value := .obj [("name", .str name)]

/-- The rule that a variable has to be given as a text. -/
def requireText (slot : String) : Value :=
  .obj [("field", .str slot), ("required", .bool true), ("type", .str "string")]

/-- A text that consists of one slot. -/
def slot (path : String) : String := "\x7b\x7b" ++ path ++ "\x7d\x7d"

/-- The sign-up graph, a chain of four nodes. -/
def graph : Graph where
  name := "User Signup"
  nodes := [
    { id := "collect", kind := .input,
      fields := [("variables", .arr [declare "name", declare "email", declare "password"])] },
    { id := "validate", kind := .validation,
      fields := [("rules", .arr [requireText (slot "email"), requireText (slot "password")])] },
    { id := "store_user", kind := .insert,
      fields := [
        ("collection", .str "users"),
        ("data", .obj [("name", .str (slot "name")), ("email", .str (slot "email")),
          ("password", .str (slot "password"))]),
        ("outputVar", .str "createdRecord")] },
    { id := "welcome", kind := .email,
      fields := [
        ("to", .str (slot "createdRecord.email")),
        ("subject", .str "Welcome aboard"),
        ("body", .str ("Hi " ++ slot "name" ++ ", your account " ++ slot "createdRecord.email" ++
          " is ready."))] }]
  edges := [⟨"e1", "collect", "validate"⟩, ⟨"e2", "validate", "store_user"⟩,
    ⟨"e3", "store_user", "welcome"⟩]

/-- The input used when a caller gives none. -/
def sample : Object :=
  [("name", .str "Ada Lovelace"), ("email", .str "ada@example.com"),
    ("password", .str "analytical-engine")]

end Workflow.Signup
