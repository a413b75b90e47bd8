import Workflow.Number.Literal
import Workflow.Value.Basic
import Workflow.Fault

/-!
# Claims

The checks of a token's claims, in their order.  Times are whole seconds since the start of 1970.
-/

namespace Workflow.Token

/-- Why a token is refused. -/
inductive Refusal where
  | notEnoughSegments
  | header (reason : String)
  | headerNotObject
  | payloadEncoding
  | signatureEncoding
  | noAlgorithm
  | algorithmNotAllowed
  | wrongSignature
  | payload (reason : String)
  | payloadNotObject
  | issuedAtNotInteger
  | notBeforeNotInteger
  | notYetValid
  | expiryNotInteger
  | expired
  | malformedAudience
  | wrongAudience
  | subjectNotText
  | identifierNotText
  | accessTokenMissing
deriving DecidableEq

/-- The wording of a refusal. -/
def Refusal.wording : Refusal → String
  | .notEnoughSegments => "Not enough segments"
  | .header reason => s!"Invalid header string: {reason}"
  | .headerNotObject => "Invalid header string: must be a json object"
  | .payloadEncoding => "Invalid payload padding"
  | .signatureEncoding => "Invalid crypto padding"
  | .noAlgorithm => "No algorithm was specified in the JWS header."
  | .algorithmNotAllowed => "The specified alg value is not allowed"
  | .wrongSignature => "Signature verification failed."
  | .payload reason => s!"Invalid payload string: {reason}"
  | .payloadNotObject => "Invalid payload string: must be a json object"
  | .issuedAtNotInteger => "Issued At claim (iat) must be an integer."
  | .notBeforeNotInteger => "Not Before claim (nbf) must be an integer."
  | .notYetValid => "The token is not yet valid (nbf)"
  | .expiryNotInteger => "Expiration Time claim (exp) must be an integer."
  | .expired => "Signature has expired."
  | .malformedAudience => "Invalid claim format in token"
  | .wrongAudience => "Invalid audience"
  | .subjectNotText => "Subject must be a string."
  | .identifierNotText => "JWT ID must be a string."
  | .accessTokenMissing => "No access_token provided to compare against at_hash claim."

/-- A token is refused for a reason, or a fault keeps it from being checked. -/
inductive Rejection where
  | refused (refusal : Refusal)
  | fault (cause : Fault)

/-- The whole seconds that a claim denotes: a number without its fraction, a truth value, or a text
that denotes an integer.  `none` when the claim denotes no integer. -/
def wholeSeconds (claim : Value) : Except Fault (Option Int) :=
  match claim with
  | .int number => .ok (some number)
  | .bool flag => .ok (some (if flag then 1 else 0))
  | .float number =>
    if number.isNaN then .ok none
    else if number.isInfinite then
      .error (.reported .overflow "cannot convert float infinity to integer")
    else
      let size : Int := (number.ratio.1 / number.ratio.2 : Nat)
      .ok (some (if number.isNegative then -size else size))
  | .str text =>
    match Number.readInt text with
    | .ok number => .ok (some number)
    | .error _ => .ok none
  | other => .error (.notANumber other.type)

/-- Check a claim of a time, if it is there. -/
def checkTime (claims : Object) (name : String) (notInteger : Refusal)
    (problem? : Int → Option Refusal) : Except Rejection Unit :=
  match Object.get? claims name with
  | none => .ok ()
  | some claim =>
    match wholeSeconds claim with
    | .error cause => .error (.fault cause)
    | .ok none => .error (.refused notInteger)
    | .ok (some seconds) =>
      match problem? seconds with
      | some refusal => .error (.refused refusal)
      | none => .ok ()

/-- Whether a value is a text. -/
def isText : Value → Bool
  | .str _ => true
  | _ => false

/-- Check the audience, if there is one: no audience is expected, so none is right. -/
def checkAudience (claims : Object) : Except Rejection Unit :=
  match Object.get? claims "aud" with
  | none => .ok ()
  | some (.str _) => .error (.refused .wrongAudience)
  | some (.arr items) =>
    .error (.refused (if items.all isText then .wrongAudience else .malformedAudience))
  | some _ => .error (.refused .malformedAudience)

/-- Check that a claim is a text, if it is there. -/
def checkText (claims : Object) (name : String) (refusal : Refusal) : Except Rejection Unit :=
  match Object.get? claims name with
  | none => .ok ()
  | some claim => if isText claim then .ok () else .error (.refused refusal)

/-- All checks of claims at a time. -/
def checkClaims (now : Int) (claims : Object) : Except Rejection Unit := do
  checkTime claims "iat" .issuedAtNotInteger fun _ => none
  checkTime claims "nbf" .notBeforeNotInteger fun start =>
    if now < start then some .notYetValid else none
  checkTime claims "exp" .expiryNotInteger fun expiry =>
    if expiry < now then some .expired else none
  checkAudience claims
  checkText claims "sub" .subjectNotText
  checkText claims "jti" .identifierNotText
  if Object.contains claims "at_hash" then .error (.refused .accessTokenMissing) else .ok ()

end Workflow.Token
