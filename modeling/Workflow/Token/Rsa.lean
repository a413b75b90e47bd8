import Workflow.Digest.Sha2
import Workflow.Number.Modular
import Workflow.Token.Described

/-!
# Keys of two primes

The public half of such a key is a modulus, the product of two primes, and an exponent.  A signature
is right when its power is a digest of the message, framed to the size of the modulus.
-/

namespace Workflow.Token

-- Powers are those of the core library, whatever else is imported.
attribute [local instance(high)] instPowNat

/-- The public half of a key. -/
structure Rsa where
  modulus : Nat
  exponent : Nat
deriving DecidableEq

namespace Rsa

open Digest (Sha2)

/-! ## Descriptions -/

/-- The parts that the description of a private half has all or none of. -/
def privateParts : List String := ["p", "q", "dp", "dq", "qi"]

/-- Check that two factors make a private half. -/
def checkFactors (p q : Nat) : Except Fault Unit :=
  if p = 1 ∨ q = 1 then .error (.reported (.named "ZeroDivisionError") "integer modulo by zero")
  else if Nat.gcd q p ≠ 1 then
    .error (.reported (.named "NotRelativePrimeError")
      s!"{q} and {p} are not relatively prime, divider={Nat.gcd q p}")
  else .ok ()

/-- A factor of a modulus that a root of one with a base reveals: of its powers with a doubled
exponent, the first one whose square is one and that is neither one nor minus one. -/
def factorFrom? (modulus base exponent : Nat) : Nat → Option Nat
  | 0 => none
  | doublings + 1 =>
    let root := Number.Modular.power modulus base exponent
    if root ≠ 1 ∧ root ≠ modulus - 1 ∧ root * root % modulus = 1 then
      some (Nat.gcd (root + 1) modulus)
    else factorFrom? modulus base (2 * exponent) doublings

/-- How often two divides a number. -/
def twos (number : Nat) : Nat :=
  if number = 0 ∨ number % 2 = 1 then 0 else twos (number / 2) + 1
termination_by number
decreasing_by omega

/-- A factor of a modulus, given both exponents. -/
def factor? (modulus exponent privateExponent : Nat) : Option Nat :=
  let order := exponent * privateExponent - 1
  let odd := order / 2 ^ twos order
  ((List.range 499).map fun i => 2 * i + 2).findSome? fun base =>
    factorFrom? modulus base odd (twos order)

/-- Check the private half of a description. -/
def checkPrivate (description : Description) (modulus exponent : Nat) : Except Fault Unit := do
  let privateExponent ← description.number "d"
  if privateParts.any (Object.contains description ·) then
    if privateParts.all (Object.contains description ·) then
      checkFactors (← description.number "p") (← description.number "q")
    else throw (Key.fault "Precomputed private key parameters are incomplete.")
  else if modulus = 0 ∧ 1 < exponent * privateExponent then
    throw (.reported .value "pow() 3rd argument cannot be 0")
  else
    match factor? modulus exponent privateExponent with
    | some factor =>
      let other := modulus / factor
      checkFactors (max factor other) (min factor other)
    | none =>
      throw (.reported .value "Unable to compute factors p and q from exponent d.")

/-- The key that a description is of. -/
def ofDescription (description : Description) : Except Fault Rsa := do
  description.checkType "RSA"
  let exponent ← description.number "e"
  let modulus ← description.number "n"
  if Object.contains description "d" then checkPrivate description modulus exponent
  return { modulus, exponent }

/-! ## Signatures -/

/-- The digests that signatures have. -/
def digests : List (Sha2 × UInt8) := [(.sha256, 1), (.sha384, 2), (.sha512, 3)]

/-- A digest with its name in front; `member` numbers the digest among its family. -/
def namedDigest (sha : Sha2) (member : UInt8) (message : List UInt8) : List UInt8 :=
  [0x30, UInt8.ofNat (sha.size + 17), 0x30, 0x0d, 0x06, 0x09, 0x60, 0x86, 0x48, 0x01, 0x65, 0x03,
    0x04, 0x02, member, 0x05, 0x00, 0x04, UInt8.ofNat sha.size] ++ sha.digest message

/-- Bytes framed to a size, if there is room for the frame. -/
def frame? (size : Nat) (content : List UInt8) : Option (List UInt8) :=
  if size < content.length + 11 then none
  else
    some ([0x00, 0x01] ++ List.replicate (size - content.length - 3) 0xff ++ 0x00 :: content)

/-- The bytes that a modulus takes. -/
def size (key : Rsa) : Nat := Nat.log2 key.modulus / 8 + 1

/-- What a signature frames. -/
def opened (key : Rsa) (signature : List UInt8) : List UInt8 :=
  Sha2.toBytes key.size
    (Number.Modular.power key.modulus (Sha2.ofBytes signature) key.exponent)

/-- Whether a signature of a message is right. -/
def accepts (key : Rsa) (message signature : List UInt8) : Bool :=
  key.modulus ≠ 0 && signature.length = key.size && digests.any fun (sha, member) =>
    frame? key.size (namedDigest sha member message) = some (key.opened signature)

end Rsa

end Workflow.Token
