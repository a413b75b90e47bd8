import Workflow.Json.Reader
import Workflow.Token.Curve
import Workflow.Token.Framed
import Workflow.Token.Rsa
import Workflow.Token.Signing

/-!
# Keys

A key is made from a secret for an algorithm.  A signer takes the secret as it is; a checker also
accepts a secret that is itself a JSON text, and then tries the keys it denotes, each either a text
or a description of a key.  Keys that come in pairs are only accepted as descriptions.
-/

namespace Workflow.Token

/-- A key, ready for use. -/
inductive Key where
  /-- A secret shared by signer and checker. -/
  | secret (algorithm : Algorithm) (bytes : List UInt8)
  /-- The public half of a key of two primes. -/
  | rsa (key : Rsa)
  /-- The public half of a key on a curve. -/
  | elliptic (curve : Curve) (key : Curve.Point)
  /-- A shared key that signs nothing. -/
  | direct

namespace Key

/-- The bytes of a key for a digest. -/
def digestBytes : Value → Except Fault (List UInt8)
  | .obj description => Description.secret description
  | .str text =>
    if isPaired text.toList then
      .error (fault
        ("The specified key is an asymmetric key or x509 certificate and should not be used as " ++
          "an HMAC secret."))
    else .ok (Text.Utf8.encode text)
  | _ => .error (fault "Expecting a string- or bytes-formatted key.")

/-- The line that opens or closes the frame of a private key. -/
def frameLine (word : String) : String := s!"-----{word} PRIVATE KEY-----"

/-- Why a text holds no key of two primes: its frame is not there or not closed. -/
def rsaProblem (text : String) : String :=
  let missing (edge word : String) := s!"No PEM {edge} marker \"b'{frameLine word}'\" found"
  match (lines text).dropWhile (· ≠ (frameLine "BEGIN").toList) with
  | [] => missing "start" "BEGIN"
  | _ => missing "end" "END"

/-- The key of two primes that a secret is. -/
def rsaOf : Value → Except Fault Key
  | .obj description => (Rsa.ofDescription description).map .rsa
  | .str text => .error (fault ("RSA Error: " ++ rsaProblem text))
  | other => do throw (fault ("Unable to parse an RSA_JWK from key: " ++ (← other.text)))

/-- Why bytes are no sequence of numbers. -/
def sequenceProblem : List UInt8 → String
  | [] => "Empty string does not encode a sequence"
  | byte :: _ =>
    if byte = 0x30 then "Length longer than the provided buffer"
    else s!"wanted type 'sequence' (0x30), got 0x{String.ofList (Text.hex 2 byte.toNat)}"

/-- Why a text holds no key on a curve. -/
def ellipticFault (text : String) : Fault :=
  match framedBytes text with
  | .error problem => fault problem.wording
  | .ok bytes =>
    if ["EC ", ""].any fun kind =>
        occursIn ("-----BEGIN " ++ kind ++ "PRIVATE KEY-----").toList text.toList then
      .reported (.named "UnexpectedDER") (sequenceProblem bytes)
    else .reported .value "subsection not found"

/-- The key on a curve that a secret is. -/
def ellipticOf (curve : Option Curve) : Value → Except Fault Key
  | .obj description =>
    (Curve.ofDescription curve description).map fun (curve, key) => .elliptic curve key
  | .str text => .error (ellipticFault text)
  | other => do throw (fault ("Unable to parse an ECKey from key: " ++ (← other.text)))

/-- The key that a secret is for the algorithm with a name. -/
def construct (name : String) (secret : Value) : Except Fault Key :=
  match Method.ofName name with
  | .digest algorithm => (digestBytes secret).map (.secret algorithm)
  | .rsa => rsaOf secret
  | .rsaTransport => .error (fault s!"alg: {name} is not supported by the RSA backend")
  | .elliptic => ellipticOf (Curve.ofName? name) secret
  | .direct =>
    match secret with
    | .str _ => .ok .direct
    | other => .error (.reported .type s!"not expecting type '<class '{other.type.name}'>'")
  | .unavailable => .error (fault "Unable to find an algorithm for key")

/-- The signature of a message; only secrets sign. -/
def sign? (message : List UInt8) : Key → Option (List UInt8)
  | .secret algorithm bytes => some (algorithm.sign bytes message)
  | _ => none

/-- Whether a signature of a message is right. -/
def accepts (message signature : List UInt8) : Key → Bool
  | .secret algorithm bytes => algorithm.sign bytes message = signature
  | .rsa key => key.accepts message signature
  | .elliptic curve key => curve.accepts key message signature
  | .direct => false

end Key

/-- The items that a set of keys is gone through as. -/
def keyItems : Value → Except Fault (List Value)
  | .arr items => .ok items
  | .str text => .ok (text.toList.map fun c => .str c.toString)
  | .obj fields => .ok (fields.map fun field => Value.ofName field.1)
  | other => .error (.notIterable other.type)

/-- The keys that a value denotes.  An object is a set of keys, the description of one key, or has
keys under names of their own. -/
def keysOf : Value → Except Fault (List Value)
  | .arr items => .ok items
  | .obj fields =>
    match Object.get? fields "keys" with
    | some keys => keyItems keys
    | none =>
      if Object.contains fields "kty" || fields.isEmpty then .ok [.obj fields]
      else .ok (fields.map (·.2))
  | other => .ok [other]

/-- The keys that a secret denotes when a signature is checked: a text that is a JSON text, with at
most `depth` arrays and objects inside one another, is read, with numbers as they are written. -/
def checkingKeys (depth : Nat) (secret : Value) : Except Fault (List Value) :=
  match secret with
  | .str text =>
    match Json.readWith .texts text depth with
    | .error _ => .ok [secret]
    | .ok value => keysOf value
  | other => keysOf other

/-- Whether a signature is right under one of some keys for the algorithm with a name; the keys are
made one after the other, up to the first that fits. -/
def isSignedBy (name : String) (message signature : List UInt8) : List Value → Except Fault Bool
  | [] => .ok false
  | secret :: rest => do
    let key ← Key.construct name secret
    if key.accepts message signature then return true
    else isSignedBy name message signature rest

end Workflow.Token
