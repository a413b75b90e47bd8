import Workflow.Proofs.Token.Claims
import Workflow.Proofs.Token.Keys

/-!
# Issued tokens are verified

A token that is verified in the second in which it was issued gives back its claims, or is refused as
expired when it was issued with a lifetime below zero.  The claims are as deep as the writer and the
reader of JSON both get, however far that is.  The token is issued for a copy of the claims that are
given, which stay as they are.
-/

namespace Workflow.Token

open Text (Base64.encode)

variable {issuer : Issuer} {algorithm : Algorithm} {key : Key} {now : Int} {identifier : String}
  {claims : Object} {minutes : Option Value} {writing reading : Nat}

/-! ## Issuing -/

/-- The token of claims, as an issuer signs them. -/
def sealClaims (issuer : Issuer) (depth : Nat) (claims : Object) : Except Fault String :=
  if !signingNames.contains issuer.algorithm then
    .error (.reported .signature s!"Algorithm {issuer.algorithm} not supported.")
  else do
    let payload ← Json.writeWith Json.compact depth (.obj claims)
    let signed := signedText (headerText issuer.algorithm) payload
    return signed ++ "." ++ Base64.encode (← signature issuer signed)

/-- A token is issued by determining its expiry and sealing its claims. -/
theorem issue_eq (issuer : Issuer) (now : Int) (identifier : String) (claims : Object)
    (minutes : Option Value) (depth : Nat) :
    issue issuer now identifier claims minutes depth =
      expiry now (minutes.getD issuer.lifetime) >>= fun expiry =>
        sealClaims issuer depth (issuedClaims claims identifier expiry) :=
  rfl

/-- Claims that have a text are sealed with a signature that the key accepts. -/
theorem exists_sealClaims (named : issuer.algorithm = algorithm.name)
    (made : Key.construct issuer.algorithm issuer.secret = .ok key) {payload : String}
    (written : Json.writeWith Json.compact writing (.obj claims) = .ok payload) :
    ∃ right, sealClaims issuer writing claims = .ok (tokenText issuer.algorithm payload right) ∧
      key.accepts (signedBytes issuer.algorithm payload) right = true := by
  have known : signingNames.contains issuer.algorithm = true := by
    rw [named]
    cases algorithm <;> decide
  obtain ⟨right, signed, accepted⟩ :=
    exists_signature named made (signedText (headerText issuer.algorithm) payload)
  refine ⟨right, ?_, accepted⟩
  simp only [sealClaims, known, Bool.not_true, Bool.false_eq_true, if_false, written,
    Outcome.ok_bind, signed, tokenText]
  rfl

/-- Claims that JSON carries are issued, with a signature that the key accepts, and the text that
they are written as is read back. -/
theorem exists_issue (named : issuer.algorithm = algorithm.name)
    (made : Key.construct issuer.algorithm issuer.secret = .ok key)
    (carried : (Value.obj claims).IsPortable) (low : (Value.obj claims).nesting ≤ writing)
    {second : Int} (expires : expiry now (minutes.getD issuer.lifetime) = .ok second)
    (short : Number.tooLong second = false) (identifier : String) :
    ∃ payload right,
      issue issuer now identifier claims minutes writing =
        .ok (tokenText issuer.algorithm payload right) ∧
      key.accepts (signedBytes issuer.algorithm payload) right = true ∧
      ∀ {reading : Nat}, (Value.obj claims).nesting ≤ reading →
        Json.read payload reading = .ok (.obj (issuedClaims claims identifier second)) := by
  obtain ⟨portable, lower⟩ := @isPortable_issuedClaims claims identifier second carried short
  have written_low := Nat.le_trans lower low
  obtain ⟨payload, written, -⟩ :=
    Json.exists_writeWith Json.isFaithful_compact portable written_low (Nat.le_refl _)
  obtain ⟨right, sealed, accepted⟩ := exists_sealClaims named made written
  refine ⟨payload, right, ?_, accepted, fun read_low => ?_⟩
  · rw [issue_eq, expires]
    exact sealed
  · exact Json.read_of_writeWith Json.isFaithful_compact portable written_low
      (Nat.le_trans lower read_low) written

/-! ## Verifying -/

section

variable {payload : String} {right : List UInt8}

/-- A token with a wrong signature is refused. -/
theorem verify_of_wrong (positive : 1 ≤ reading) (named : issuer.algorithm = algorithm.name)
    (wrong : (checkingKeys reading issuer.secret).bind
      (isSignedBy issuer.algorithm (signedBytes issuer.algorithm payload) right) = .ok false)
    (later : Int) :
    verify issuer later (tokenText issuer.algorithm payload right) reading =
      .error (.refused .wrongSignature) := by
  rw [verify, Parts.read_tokenText positive, Outcome.ok_bind,
    checkSignature_tokenParts named wrong]
  rfl

/-- A token with a right signature gives its claims if they pass their checks. -/
theorem verify_of_right (positive : 1 ≤ reading) (named : issuer.algorithm = algorithm.name)
    (signed : (checkingKeys reading issuer.secret).bind
      (isSignedBy issuer.algorithm (signedBytes issuer.algorithm payload) right) = .ok true)
    (read : Json.read payload reading = .ok (.obj claims)) (later : Int) :
    verify issuer later (tokenText issuer.algorithm payload right) reading =
      (checkClaims later claims).map fun _ => claims := by
  rw [verify, Parts.read_tokenText positive, Outcome.ok_bind,
    checkSignature_tokenParts named signed, if_pos rfl, Outcome.ok_bind, tokenParts,
    readJson_encode read, Outcome.ok_bind]
  dsimp only
  cases checkClaims later claims <;> rfl

end

/-! ## The claims that are given

A caller gives claims as an object in memory, which others may hold as well.  Issuing copies it and
writes to the copy; the values in an object are not written to at all. -/

/-- Objects in memory; an address is a place among them. -/
abbrev Memory := List Object

/-- Copy the object at an address to a fresh one. -/
def Memory.copy (address : Nat) : StateM Memory Nat := fun memory =>
  (memory.length, memory ++ [memory.getD address []])

/-- Change the object at an address. -/
def Memory.change (address : Nat) (next : Object → Object) : StateM Memory Unit := fun memory =>
  ((), memory.modify address next)

/-- Issue a token for the claims at an address. -/
def issueAt (issuer : Issuer) (now : Int) (identifier : String) (minutes : Option Value)
    (depth address : Nat) : ExceptT Fault (StateM Memory) String := do
  let own ← Memory.copy address
  Memory.change own fun claims => Object.setDefault claims "jti" (.str identifier)
  let expiry ← ExceptT.mk (pure (expiry now (minutes.getD issuer.lifetime)))
  Memory.change own fun claims => Object.set claims "exp" (.int expiry)
  let memory : Memory ← get
  ExceptT.mk (pure (sealClaims issuer depth (memory.getD own [])))

theorem modify_concat_length (memory : Memory) (object : Object) (next : Object → Object) :
    (memory ++ [object]).modify memory.length next = memory ++ [next object] := by
  induction memory with
  | nil => rfl
  | cons first rest ih => exact congrArg (first :: ·) ih

/-- The token is that of the claims at the address, and of what is in memory nothing is changed. -/
theorem exists_issueAt_eq {memory : Memory} {address : Nat}
    (given : memory[address]? = some claims) :
    ∃ copy, (issueAt issuer now identifier minutes writing address).run memory =
      (issue issuer now identifier claims minutes writing, memory ++ [copy]) := by
  have found : memory.getD address [] = claims := by
    rw [List.getD_eq_getElem?_getD, given]
    rfl
  rw [issue_eq]
  cases outcome : expiry now (minutes.getD issuer.lifetime) with
  | error cause =>
      refine ⟨Object.setDefault claims "jti" (.str identifier), ?_⟩
      rw [issueAt, outcome]
      change (Except.error cause, List.modify (memory ++ [_]) memory.length _) = _
      rw [modify_concat_length, found]
      rfl
  | ok expiry =>
      refine ⟨issuedClaims claims identifier expiry, ?_⟩
      rw [issueAt, outcome]
      change (sealClaims issuer writing
          (((List.modify (memory ++ [_]) memory.length _).modify memory.length _).getD
            memory.length []),
          (List.modify (memory ++ [_]) memory.length _).modify memory.length _) = _
      rw [modify_concat_length, modify_concat_length, found, List.getD_eq_getElem?_getD,
        List.getElem?_concat_length]
      rfl

/-! ## Issuing and verifying -/

/-- A token that is verified in the second in which it is issued gives back its claims, with the expiry
and, if there was none, the identifier; with a lifetime below zero it is refused as expired.  What was
in memory when it was issued is still there.  The claims have at most as many arrays and objects
inside one another as are written and read. -/
theorem verify_issued {lifetime : Int} {clock : Nat → Int} {call : Nat}
    (named : issuer.algorithm = algorithm.name) (own : issuer.ChecksOwn reading)
    (issuable : AreIssuable claims) (written_low : (Value.obj claims).nesting ≤ writing)
    (read_low : (Value.obj claims).nesting ≤ reading)
    (whole : microsOfMinutes (minutes.getD issuer.lifetime) = .ok (lifetime * minuteMicros))
    (issued : (Moment.ofSecond now).HasDate)
    (expires : (Moment.ofSecond (now + 60 * lifetime)).HasDate) (identifier : String)
    (same_second : clock call = now) :
    ∃ token, issue issuer now identifier claims minutes writing = .ok token ∧
      (verifier issuer clock reading).verify call token =
        (if lifetime < 0 then .error (.step (.auth .expired))
        else
          let identified :=
            if Object.contains claims "jti" then claims
            else claims ++ ([("jti", .str identifier)] : Object)
          .ok (.obj (Object.set identified "exp" (.int (now + 60 * lifetime))))) ∧
      ∀ (memory : Memory) (address : Nat), memory[address]? = some claims →
        ∃ copy, (issueAt issuer now identifier minutes writing address).run memory =
          (.ok token, memory ++ [copy]) := by
  obtain ⟨key, secrets, made, denoted, met⟩ := own
  have short := tooLong_expiry expires
  obtain ⟨payload, right, issue_ok, accepted, read⟩ := exists_issue named made issuable.portable
    written_low (expiry_eq whole issued expires) short identifier
  refine ⟨tokenText issuer.algorithm payload right, issue_ok, ?_, ?_⟩
  · have positive : 1 ≤ reading := Nat.le_trans (Nat.le_add_right 1 _) read_low
    have signed : (checkingKeys reading issuer.secret).bind
        (isSignedBy issuer.algorithm (signedBytes issuer.algorithm payload) right) = .ok true := by
      rw [denoted]
      exact isSignedBy_of_isMet met accepted
    simp only [verifier]
    rw [same_second, verify_of_right positive named signed (read read_low),
      checkClaims_issuedClaims issuable]
    by_cases negative : lifetime < 0
    · rw [if_pos (by omega), if_pos negative]
      rfl
    · rw [if_neg (by omega), if_neg negative]
      rfl
  · intro memory address given
    obtain ⟨copy, run_eq⟩ := exists_issueAt_eq given
    exact ⟨copy, run_eq.trans (by rw [issue_ok])⟩

theorem hasDate_epoch : (Moment.ofSecond 0).HasDate := by
  constructor <;> decide

/-- An issuer whose secret is no JSON text. -/
def plainIssuer : Issuer := { secret := .str "test-secret" }

theorem construct_plainIssuer : Key.construct plainIssuer.algorithm plainIssuer.secret =
    .ok (.secret .hs256 (Text.Utf8.encode "test-secret")) :=
  Key.construct_text .hs256 (by decide)

theorem checksOwn_plainIssuer (depth : Nat) : plainIssuer.ChecksOwn depth := by
  have plain : Json.readWith .texts "test-secret" depth = .error ⟨.expectingValue, 0, (1, 1)⟩ := rfl
  exact Issuer.checksOwn_of_checkingKeys construct_plainIssuer (checkingKeys_of_plain plain)

/-- Claims with values inside one another. -/
def sampleClaims : Object :=
  [("sub", .str "user-1"), ("näme 🎉", .arr [.null, .obj [("last", .bool true), ("rank", .int 0)]])]

theorem areIssuable_sampleClaims : AreIssuable sampleClaims where
  portable := by
    refine .obj (by decide) ?_
    rintro field (_ | ⟨_, (_ | ⟨_, ⟨⟩⟩)⟩)
    · exact .str _
    · refine .arr ?_
      rintro item (_ | ⟨_, (_ | ⟨_, ⟨⟩⟩)⟩)
      · exact .null
      · refine .obj (by decide) ?_
        rintro field (_ | ⟨_, (_ | ⟨_, ⟨⟩⟩)⟩)
        · exact .bool true
        · exact .int Number.tooLong_zero
  unchecked := by
    intro name member
    simp only [List.mem_cons, List.not_mem_nil, or_false] at member
    rcases member with rfl | rfl | rfl | rfl <;> rfl
  texts := by
    intro name member claim found
    simp only [List.mem_cons, List.not_mem_nil, or_false] at member
    rcases member with rfl | rfl
    · cases found
      rfl
    · cases found

/-- Claims are given back for five minutes; a token that ended five minutes ago is refused. -/
theorem verify_issued_sampleClaims :
    (∃ token, issue plainIssuer 0 "0011223344556677" sampleClaims (some (.int 5)) = .ok token ∧
      (verifier plainIssuer fun _ => 0).verify 0 token =
        .ok (.obj (sampleClaims ++
          ([("jti", .str "0011223344556677"), ("exp", .int 300)] : Object)))) ∧
    ∃ token, issue plainIssuer 0 "0011223344556677" sampleClaims (some (.int (-5))) = .ok token ∧
      (verifier plainIssuer fun _ => 0).verify 0 token = .error (.step (.auth .expired)) := by
  have issued (lifetime : Int) (expires : (Moment.ofSecond (0 + 60 * lifetime)).HasDate) :=
    @verify_issued plainIssuer .hs256 0 sampleClaims (some (.int lifetime)) Json.writingDepth
      Json.readingDepth lifetime (fun _ => 0) 0 rfl (checksOwn_plainIssuer _)
      areIssuable_sampleClaims (by decide) (by decide) rfl hasDate_epoch expires
      "0011223344556677" rfl
  obtain ⟨token, issue_ok, verify_ok, -⟩ := issued 5 (by constructor <;> decide)
  obtain ⟨expired, expired_ok, refused, -⟩ := issued (-5) (by constructor <;> decide)
  exact ⟨⟨token, issue_ok, verify_ok⟩, expired, expired_ok, refused⟩

/-- An issuer whose secret is a JSON text: it stands for no keys at all. -/
def keylessIssuer : Issuer := { secret := .str "[]" }

/-- A secret that is a JSON text is taken as it is to sign but stands for other keys when a signature
is checked: the issuer refuses its own token. -/
theorem issued_not_verified :
    ∃ token, issue keylessIssuer 0 "0011223344556677" [("sub", .str "u")] none = .ok token ∧
      (verifier keylessIssuer fun _ => 0).verify 0 token =
        .error (.step (.auth (.invalidToken "Signature verification failed."))) := by
  have dated : (Moment.ofSecond 21600).HasDate := by constructor <;> decide
  have made : Key.construct keylessIssuer.algorithm keylessIssuer.secret =
      .ok (.secret .hs256 (Text.Utf8.encode "[]")) :=
    Key.construct_text .hs256 (by decide)
  have named : keylessIssuer.algorithm = Algorithm.hs256.name := rfl
  have expires : expiry 0 ((none : Option Value).getD keylessIssuer.lifetime) = .ok 21600 :=
    @expiry_eq 0 360 keylessIssuer.lifetime rfl hasDate_epoch dated
  obtain ⟨payload, right, issue_ok, -, -⟩ := exists_issue named made
    (Value.isPortable_single (.str "u")) (show 1 ≤ Json.writingDepth by decide) expires
    (tooLong_expiry dated) "0011223344556677"
  refine ⟨_, issue_ok, ?_⟩
  have wrong : (checkingKeys Json.readingDepth keylessIssuer.secret).bind
      (isSignedBy keylessIssuer.algorithm (signedBytes keylessIssuer.algorithm payload) right) =
        .ok false :=
    rfl
  simp only [verifier]
  rw [verify_of_wrong (by decide) named wrong]
  rfl

end Workflow.Token
