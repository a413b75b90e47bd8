import Workflow.Proofs.Outcome
import Workflow.Proofs.Token.Segments

/-!
# Keys of an issuer

An issuer signs with the key that its secret makes and checks with the keys that its secret denotes,
which is the same key for a text that is no JSON text.  What it signs it accepts if the key it signs
with is met among those it checks with.
-/

namespace Workflow.Token

/-- A key is made from one of some secrets, before any secret from which none can be made. -/
inductive Key.IsMet (name : String) (key : Key) : List Value → Prop where
  | here {secret : Value} {rest : List Value} (made : construct name secret = .ok key) :
      IsMet name key (secret :: rest)
  | later {secret : Value} {rest : List Value} {other : Key}
      (made : construct name secret = .ok other) (met : IsMet name key rest) :
      IsMet name key (secret :: rest)

/-- The key that an issuer signs with is met among those that it checks with, when a secret is read
that has at most `depth` arrays and objects inside one another. -/
def Issuer.ChecksOwn (issuer : Issuer) (depth : Nat) : Prop :=
  ∃ key secrets, Key.construct issuer.algorithm issuer.secret = .ok key ∧
    checkingKeys depth issuer.secret = .ok secrets ∧ key.IsMet issuer.algorithm secrets

/-- A text that is no JSON text denotes itself. -/
theorem checkingKeys_of_plain {depth : Nat} {text : String} {error : Json.ReadError}
    (plain : Json.readWith .texts text depth = .error error) :
    checkingKeys depth (.str text) = .ok [.str text] := by
  rw [checkingKeys, plain]

/-- So does a number as it is written. -/
example (depth : Nat) : checkingKeys depth (.str "-12") = .ok [.str "-12"] ∧
    checkingKeys depth (.str "1e400") = .ok [.str "1e400"] :=
  ⟨rfl, rfl⟩

/-- An issuer whose secret denotes itself checks its own tokens. -/
theorem Issuer.checksOwn_of_checkingKeys {issuer : Issuer} {depth : Nat} {key : Key}
    (made : Key.construct issuer.algorithm issuer.secret = .ok key)
    (same : checkingKeys depth issuer.secret = .ok [issuer.secret]) : issuer.ChecksOwn depth :=
  ⟨key, [issuer.secret], made, same, .here made⟩

/-- A signature is right that one of the keys met accepts. -/
theorem isSignedBy_of_isMet {name : String} {key : Key} {secrets : List Value}
    {message signature : List UInt8} (met : key.IsMet name secrets)
    (accepted : key.accepts message signature = true) :
    isSignedBy name message signature secrets = .ok true := by
  induction met with
  | here made =>
      rw [isSignedBy, made, Outcome.ok_bind, if_pos accepted]
      rfl
  | @later secret rest other made _ ih =>
      rw [isSignedBy, made, Outcome.ok_bind]
      split
      · rfl
      · exact ih

theorem Key.construct_name (algorithm : Algorithm) (secret : Value) :
    construct algorithm.name secret = (digestBytes secret).map (.secret algorithm) := by
  have method_eq : Method.ofName algorithm.name = .digest algorithm := by
    cases algorithm <;> rfl
  simp only [construct, method_eq]

/-- A text without the marks of a paired key is a secret. -/
theorem Key.construct_text (algorithm : Algorithm) {text : String}
    (single : isPaired text.toList = false) :
    construct algorithm.name (.str text) = .ok (.secret algorithm (Text.Utf8.encode text)) := by
  rw [construct_name, digestBytes, single]
  rfl

/-- With a digest, a text is signed so that the key accepts the signature. -/
theorem exists_signature {issuer : Issuer} {algorithm : Algorithm} {key : Key}
    (named : issuer.algorithm = algorithm.name)
    (made : Key.construct issuer.algorithm issuer.secret = .ok key) (signed : String) :
    ∃ right, signature issuer signed = .ok right ∧
      key.accepts (Text.Utf8.encode signed) right = true := by
  obtain ⟨bytes, rfl⟩ : ∃ bytes, key = .secret algorithm bytes := by
    rw [named, Key.construct_name] at made
    cases read : Key.digestBytes issuer.secret with
    | error cause =>
        rw [read] at made
        cases made
    | ok bytes =>
        rw [read] at made
        exact ⟨bytes, (Except.ok.inj made).symm⟩
  refine ⟨algorithm.sign bytes (Text.Utf8.encode signed), ?_, decide_eq_true rfl⟩
  rw [signature, made]
  rfl

/-- The signature of a token is checked under the keys that the secret denotes. -/
theorem checkSignature_tokenParts {issuer : Issuer} {algorithm : Algorithm}
    (named : issuer.algorithm = algorithm.name) {payload : String} {signature : List UInt8}
    {depth : Nat} {right : Bool}
    (checked : (checkingKeys depth issuer.secret).bind
      (isSignedBy issuer.algorithm (signedBytes issuer.algorithm payload) signature) = .ok right) :
    checkSignature issuer depth (tokenParts issuer.algorithm payload signature) =
      if right then .ok () else .error (.refused .wrongSignature) := by
  have field_eq : Value.field (headerFields issuer.algorithm) "alg" = .str issuer.algorithm := rfl
  have given : (Value.str issuer.algorithm).isTruthy = true := by
    rw [named]
    cases algorithm <;> rfl
  simp only [checkSignature, tokenParts, field_eq, given, Bool.not_true, Bool.false_eq_true,
    if_false, ne_eq, not_true_eq_false, checked]
  cases right <;> rfl

end Workflow.Token
