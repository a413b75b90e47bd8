import Workflow.Handler.Basic
import Workflow.Json.Writer
import Workflow.Token.Claims
import Workflow.Token.Key

/-!
# Signed tokens

A token has three segments set apart by points: a header that names how it is signed, the claims,
and the signature of both.  This module issues tokens and verifies them.
-/

namespace Workflow.Token

open Text (Base64.encode)

-- Powers are those of the core library, whatever else is imported.
attribute [local instance(high)] instPowNat

/-- The byte that sets segments apart. -/
def point : UInt8 := 0x2e

/-- The parts of a token as bytes. -/
structure Parts where
  header : Object
  payload : List UInt8
  signed : List UInt8
  signature : List UInt8

/-- Split at the last point. -/
def splitLast (bytes : List UInt8) : Option (List UInt8 × List UInt8) :=
  let reversed := bytes.reverse
  match reversed.dropWhile (· ≠ point) with
  | [] => none
  | _ :: before => some (before.reverse, (reversed.takeWhile (· ≠ point)).reverse)

/-- Split at the first point. -/
def splitFirst (bytes : List UInt8) : Option (List UInt8 × List UInt8) :=
  match bytes.dropWhile (· ≠ point) with
  | [] => none
  | _ :: after => some (bytes.takeWhile (· ≠ point), after)

/-- The JSON value that bytes encode; when they encode none, the refusal that `refuse` makes of the
reason. -/
def readJson (depth : Nat) (refuse : String → Refusal) (bytes : List UInt8) :
    Except Rejection Value :=
  match Text.Utf8.decode bytes with
  | .error error => .error (.refused (refuse error.text))
  | .ok text =>
    (Json.read text depth).mapError fun error =>
      if error.fault.kind = .recursion then .fault error.fault else .refused (refuse error.text)

/-- The two segments that are signed, and the signature. -/
def split? (token : String) : Option (List UInt8 × List UInt8 × List UInt8 × List UInt8) := do
  let (signed, signature) ← splitLast (Text.Utf8.encode token)
  let (header, payload) ← splitFirst signed
  return (signed, header, payload, signature)

/-- Take a token apart. -/
def Parts.read (depth : Nat) (token : String) : Except Rejection Parts :=
  match split? token with
  | none => .error (.refused .notEnoughSegments)
  | some (signed, headerSegment, payloadSegment, signatureSegment) =>
    match Text.Base64.decode headerSegment with
    | .error _ => .error (.refused .notEnoughSegments)
    | .ok headerBytes => do
      match ← readJson depth .header headerBytes with
      | .obj header =>
        match Text.Base64.decode payloadSegment, Text.Base64.decode signatureSegment with
        | .error _, _ => .error (.refused .payloadEncoding)
        | .ok _, .error _ => .error (.refused .signatureEncoding)
        | .ok payload, .ok signature => .ok { header, payload, signed, signature }
      | _ => .error (.refused .headerNotObject)

/-- How tokens are signed and checked, and how long they last. -/
structure Issuer where
  /-- A text, or anything else that keys are made from. -/
  secret : Value
  algorithm : String := "HS256"
  /-- Minutes that a token lasts when nothing else is said, as they were given. -/
  lifetime : Value := .int 360

/-- Check the signature of a token. -/
def checkSignature (issuer : Issuer) (depth : Nat) (parts : Parts) : Except Rejection Unit :=
  let named := Value.field parts.header "alg"
  if !named.isTruthy then .error (.refused .noAlgorithm)
  else
    match named with
    | .str name =>
      if name ≠ issuer.algorithm then .error (.refused .algorithmNotAllowed)
      else
        match (checkingKeys depth issuer.secret).bind
            (isSignedBy name parts.signed parts.signature) with
        | .error cause => .error (.fault cause)
        | .ok true => .ok ()
        | .ok false => .error (.refused .wrongSignature)
    | _ => .error (.refused .algorithmNotAllowed)

/-- The claims of a valid token at a time, whose JSON texts have at most `depth` arrays and objects
inside one another. -/
def verify (issuer : Issuer) (now : Int) (token : String) (depth : Nat := Json.readingDepth) :
    Except Rejection Object := do
  let parts ← Parts.read depth token
  checkSignature issuer depth parts
  match ← readJson depth .payload parts.payload with
  | .obj claims =>
    checkClaims now claims
    return claims
  | _ => .error (.refused .payloadNotObject)

/-- The failure that a rejection is to a step. -/
def Rejection.failure : Rejection → Failure
  | .refused .expired => .step (.auth .expired)
  | .refused refusal => .step (.auth (.invalidToken refusal.wording))
  | .fault cause => .fault cause

/-- The verifier of an issuer's tokens; `clock` gives the second at each call. -/
def verifier (issuer : Issuer) (clock : Nat → Int) (depth : Nat := Json.readingDepth) :
    Verifier where
  verify := fun call token =>
    ((verify issuer (clock call) token depth).map .obj).mapError Rejection.failure

/-- The microseconds of a minute. -/
def minuteMicros : Nat := 60000000

/-- The microseconds in a number of minutes, to the nearest one. -/
def microsOfMinutes : Value → Except Fault Int
  | .int minutes => .ok (minutes * minuteMicros)
  | .bool flag => .ok (if flag then minuteMicros else 0)
  | .float minutes =>
    if minutes.isNaN then .error (.reported .value "cannot convert float NaN to integer")
    else if minutes.isInfinite then
      .error (.reported .overflow "cannot convert float infinity to integer")
    else
      let size : Int :=
        Number.Double.roundQuotient (minutes.ratio.1 * minuteMicros) minutes.ratio.2
      .ok (if minutes.isNegative then -size else size)
  | other =>
    .error (.reported .type
      s!"unsupported type for timedelta minutes component: {other.type.name}")

/-- The greatest number of days that a span of time may have. -/
def maxSpanDays : Int := 999999999

/-- A span of microseconds, if there are such spans. -/
def checkSpan (span : Int) : Except Fault Int :=
  let days := span.fdiv Moment.dayMicros
  if days < -(2 ^ (31 : Nat)) ∨ 2 ^ (31 : Nat) ≤ days then
    .error (.reported .overflow "Python int too large to convert to C int")
  else if days < -maxSpanDays ∨ maxSpanDays < days then
    .error (.reported .overflow s!"days={days}; must have magnitude <= 999999999")
  else .ok span

/-- The second at which a token expires that lasts a number of minutes from a second on. -/
def expiry (now : Int) (minutes : Value) : Except Fault Int := do
  let span ← checkSpan (← microsOfMinutes minutes)
  let moment : Moment := ⟨now * 1000000 + span⟩
  if moment.year < 1 ∨ 9999 < moment.year then
    throw (.reported .overflow "date value out of range")
  else return moment.micros.fdiv 1000000

/-- The claims as they go into a token: an identifier when there is none, and the expiry. -/
def issuedClaims (claims : Object) (identifier : String) (expiry : Int) : Object :=
  Object.set (Object.setDefault claims "jti" (.str identifier)) "exp" (.int expiry)

/-- The header of a token. -/
def headerText (algorithm : String) : String :=
  let quoted := Json.writeString Json.compact
  "\x7b" ++ quoted "alg" ++ ":" ++ quoted algorithm ++ "," ++ quoted "typ" ++ ":" ++ quoted "JWT" ++
    "\x7d"

/-- The part of a token that is signed, for a header and claims given as texts. -/
def signedText (header payload : String) : String :=
  Base64.encode (Text.Utf8.encode header) ++ "." ++ Base64.encode (Text.Utf8.encode payload)

/-- The signature of a text under a secret taken as it is. -/
def signature (issuer : Issuer) (signed : String) : Except Fault (List UInt8) :=
  match Key.construct issuer.algorithm issuer.secret with
  | .error cause => .error (.reported .signature cause.text)
  | .ok key =>
    match key.sign? (Text.Utf8.encode signed) with
    | some signature => .ok signature
    | none => .error (.reported .signature "")

/-- Issue a token for claims at a time; it lasts the given minutes or else the issuer's lifetime.
`identifier` is drawn for a token without one, and `depth` is how many arrays and objects inside one
another can be written. -/
def issue (issuer : Issuer) (now : Int) (identifier : String) (claims : Object)
    (minutes : Option Value) (depth : Nat := Json.writingDepth) : Except Fault String := do
  let expiry ← expiry now (minutes.getD issuer.lifetime)
  if !signingNames.contains issuer.algorithm then
    .error (.reported .signature s!"Algorithm {issuer.algorithm} not supported.")
  else
    let payload ← Json.writeWith Json.compact depth (.obj (issuedClaims claims identifier expiry))
    let signed := signedText (headerText issuer.algorithm) payload
    let signature ← signature issuer signed
    return signed ++ "." ++ Base64.encode signature

end Workflow.Token
