import Workflow.Digest.Sha2

/-!
# Ways to sign

A token is signed with a keyed digest.  Tokens can name other ways as well: with keys in pairs, by
which a signature can be checked but none made, and ways that cannot be carried out, each of which
is refused at its own place.
-/

namespace Workflow.Token

/-- The ways to sign. -/
inductive Algorithm where
  | hs256
  | hs384
  | hs512
deriving DecidableEq

namespace Algorithm

/-- All ways to sign. -/
def all : List Algorithm := [.hs256, .hs384, .hs512]

/-- The name of a way to sign. -/
def name : Algorithm → String
  | .hs256 => "HS256"
  | .hs384 => "HS384"
  | .hs512 => "HS512"

/-- The way to sign with a name. -/
def ofName? (name : String) : Option Algorithm := all.find? (·.name = name)

/-- The digest behind a way to sign. -/
def sha : Algorithm → Digest.Sha2
  | .hs256 => .sha256
  | .hs384 => .sha384
  | .hs512 => .sha512

/-- The signature of a message. -/
def sign (algorithm : Algorithm) (key message : List UInt8) : List UInt8 :=
  Digest.hmac algorithm.sha key message

end Algorithm

/-- What the name of an algorithm asks for. -/
inductive Method where
  | digest (algorithm : Algorithm)
  | rsa
  /-- Key transport, for which there is no key. -/
  | rsaTransport
  | elliptic
  /-- A shared key that signs nothing. -/
  | direct
  | unavailable
deriving DecidableEq

/-- What a name asks for. -/
def Method.ofName (name : String) : Method :=
  match Algorithm.ofName? name with
  | some algorithm => .digest algorithm
  | none =>
    if ["RS256", "RS384", "RS512", "RSA1_5"].contains name then .rsa
    else if ["RSA-OAEP", "RSA-OAEP-256"].contains name then .rsaTransport
    else if ["ES256", "ES384", "ES512", "ECDH-ES", "ECDH-ES+A128KW", "ECDH-ES+A192KW",
        "ECDH-ES+A256KW"].contains name then .elliptic
    else if name = "dir" then .direct
    else .unavailable

/-- The names under which a signature can be asked for. -/
def signingNames : List String :=
  ["HS256", "HS384", "HS512", "RS256", "RS384", "RS512", "ES256", "ES384", "ES512", "dir",
    "A128CBC-HS256", "A192CBC-HS384", "A256CBC-HS512", "A128GCM", "A192GCM", "A256GCM",
    "RSA1_5", "RSA-OAEP", "RSA-OAEP-256", "A128KW", "A192KW", "A256KW"]

end Workflow.Token
