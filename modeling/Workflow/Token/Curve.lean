import Workflow.Digest.Sha2
import Workflow.Number.Modular
import Workflow.Token.Described

/-!
# Keys on elliptic curves

A curve is given by its equation over a prime field and a point that generates it.  The public half
of a key is a point of the curve.  A signature is a pair of numbers below the order of the curve; it
is right when a combination of the generator and the key has the first of them as its place.
-/

namespace Workflow.Token

open Number (Modular.power Modular.inverse Modular.difference)

-- Powers are those of the core library, whatever else is imported.
attribute [local instance(high)] instPowNat

/-- A curve: the points where the square of `y` is the cube of `x` less three times `x` plus
`shift`. -/
structure Curve where
  prime : Nat
  shift : Nat
  order : Nat
  generator : Nat × Nat
  /-- Bytes of a number below the order. -/
  size : Nat
  /-- The digest of messages that are signed. -/
  sha : Digest.Sha2

namespace Curve

open Digest (Sha2)

/-! ## Points -/

/-- A point; the one at infinity has no coordinates. -/
abbrev Point := Option (Nat × Nat)

/-- Whether coordinates are those of a point of the curve. -/
def contains (curve : Curve) (x y : Nat) : Bool :=
  x < curve.prime && y < curve.prime &&
    y * y % curve.prime =
      Modular.difference curve.prime (x * x * x + curve.shift) (3 * x)

/-- The third point on a line of a slope through two points, mirrored. -/
def along (curve : Curve) (slope : Nat) (p q : Nat × Nat) : Nat × Nat :=
  let x := Modular.difference curve.prime (slope * slope) (p.1 + q.1)
  (x, Modular.difference curve.prime
    (slope * Modular.difference curve.prime p.1 x) p.2)

/-- The slope of the tangent at a point. -/
def tangent (curve : Curve) (p : Nat × Nat) : Nat :=
  Modular.difference curve.prime (3 * p.1 * p.1) 3 *
    Modular.inverse curve.prime (2 * p.2) % curve.prime

/-- The slope of the line through two points. -/
def chord (curve : Curve) (p q : Nat × Nat) : Nat :=
  Modular.difference curve.prime q.2 p.2 *
    Modular.inverse curve.prime (Modular.difference curve.prime q.1 p.1) % curve.prime

/-- The sum of two points. -/
def add (curve : Curve) : Point → Point → Point
  | none, q => q
  | p, none => p
  | some p, some q =>
    if p.1 ≠ q.1 then some (curve.along (curve.chord p q) p q)
    else if p.2 = q.2 ∧ p.2 ≠ 0 then some (curve.along (curve.tangent p) p p)
    else none

/-- A multiple of a point, by repeated doubling. -/
def multiple (curve : Curve) (factor : Nat) (point : Point) : Point :=
  if factor = 0 then none
  else
    let half := curve.multiple (factor / 2) (curve.add point point)
    if factor % 2 = 0 then half else curve.add half point
termination_by factor
decreasing_by omega

/-! ## The curves -/

/-- The curve over 256 bits. -/
def p256 : Curve where
  prime := 2 ^ (256 : Nat) - 2 ^ (224 : Nat) + 2 ^ (192 : Nat) + 2 ^ (96 : Nat) - 1
  shift := 0x5ac635d8aa3a93e7b3ebbd55769886bc651d06b0cc53b0f63bce3c3e27d2604b
  order := 0xffffffff00000000ffffffffffffffffbce6faada7179e84f3b9cac2fc632551
  generator :=
    (0x6b17d1f2e12c4247f8bce6e563a440f277037d812deb33a0f4a13945d898c296,
      0x4fe342e2fe1a7f9b8ee7eb4a7c0f9e162bce33576b315ececbb6406837bf51f5)
  size := 32
  sha := .sha256

/-- The curve over 384 bits. -/
def p384 : Curve where
  prime := 2 ^ (384 : Nat) - 2 ^ (128 : Nat) - 2 ^ (96 : Nat) + 2 ^ (32 : Nat) - 1
  shift :=
    0xb3312fa7e23ee7e4988e056be3f82d19181d9c6efe8141120314088f5013875a *
      2 ^ (128 : Nat) + 0xc656398d8a2ed19d2a85c8edd3ec2aef
  order :=
    0xffffffffffffffffffffffffffffffffffffffffffffffffc7634d81f4372ddf *
      2 ^ (128 : Nat) + 0x581a0db248b0a77aecec196accc52973
  generator :=
    (0xaa87ca22be8b05378eb1c71ef320ad746e1d3b628ba79b9859f741e082542a38 *
      2 ^ (128 : Nat) + 0x5502f25dbf55296c3a545e3872760ab7,
      0x3617de4a96262c6f5d9e98bf9292dc29f8f41dbd289a147ce9da3113b5f0b8c0 *
      2 ^ (128 : Nat) + 0x0a60b1ce1d7e819d7a431d7c90ea0e5f)
  size := 48
  sha := .sha384

/-- The curve over 521 bits. -/
def p521 : Curve where
  prime := 2 ^ (521 : Nat) - 1
  shift :=
    0x0051953eb9618e1c9a1f929a21a0b68540eea2da725b99b315f3b8b489918ef109e1 * 2 ^ (256 : Nat) +
      0x56193951ec7e937b1652c0bd3bb1bf073573df883d2c34f1ef451fd46b503f00
  order :=
    0x01fffffffffffffffffffffffffffffffffffffffffffffffffffffffffffffffffa * 2 ^ (256 : Nat) +
      0x51868783bf2f966b7fcc0148f709a5d03bb5c9b8899c47aebb6fb71e91386409
  generator :=
    (0x00c6858e06b70404e9cd9e3ecb662395b4429c648139053fb521f828af606b4d3dba * 2 ^ (256 : Nat) +
      0xa14b5e77efe75928fe1dc127a2ffa8de3348b3c1856a429bf97e7e31c2e5bd66,
      0x011839296a789a3bc0045c8a5fb42c7d1bd998f54449579b446817afbd17273e662c * 2 ^ (256 : Nat) +
      0x97ee72995ef42640c550b9013fad0761353c7086a272c24088be94769fd16650)
  size := 66
  sha := .sha512

/-- The curve of the algorithm with a name. -/
def ofName? (name : String) : Option Curve :=
  if name = "ES256" then some p256
  else if name = "ES384" then some p384
  else if name = "ES512" then some p521
  else none

/-! ## Descriptions -/

/-- The parts that every description has. -/
def parts : List String := ["x", "y", "crv"]

/-- Look up a part of the curve of an algorithm, which may have none. -/
def need (curve : Option Curve) (part : String) : Except Fault Curve :=
  match curve with
  | some curve => .ok curve
  | none => .error (.noOperation .null part)

/-- The curve and the public key that a description is of; the description of a private one has no
public key. -/
def ofDescription (curve : Option Curve) (description : Description) :
    Except Fault (Curve × Point) := do
  description.checkType "EC"
  if !parts.all (Object.contains description ·) then
    throw (Key.fault "Mandatory parameters are missing")
  if Object.contains description "d" then
    let factor ← description.number "d"
    let curve ← need curve "curve"
    if factor = 0 ∨ curve.order ≤ factor then
      throw (.reported (.named "MalformedPointError")
        s!"Invalid value for secexp, expected integer between 1 and {curve.order}")
    else return (curve, none)
  else
    let x ← description.number "x"
    let y ← description.number "y"
    let curve ← need curve "generator"
    if curve.contains x y then return (curve, some (x, y))
    else throw (Key.fault s!"Point: {x}, {y} is not a valid point")

/-! ## Signatures -/

/-- The number that a message is signed as. -/
def messageNumber (curve : Curve) (message : List UInt8) : Nat :=
  let digest := (curve.sha.digest message).take curve.size
  Sha2.ofBytes digest / 2 ^ (8 * digest.length - (Nat.log2 curve.order + 1))

/-- The place of a combination of the generator and a key, below the order. -/
def place? (curve : Curve) (key : Point) (own other : Nat) : Option Nat :=
  (curve.add (curve.multiple own (some curve.generator)) (curve.multiple other key)).map
    fun point => point.1 % curve.order

/-- Whether a signature of a message is right under a public key. -/
def accepts (curve : Curve) (key : Point) (message signature : List UInt8) : Bool :=
  let first := Sha2.ofBytes (signature.take curve.size)
  let second := Sha2.ofBytes (signature.drop curve.size)
  let isBelow (number : Nat) : Bool := 0 < number && number < curve.order
  if key.isNone ∨ signature.length ≠ 2 * curve.size ∨ !isBelow first ∨ !isBelow second then false
  else
    let inverse := Modular.inverse curve.order second
    curve.place? key (curve.messageNumber message * inverse % curve.order)
      (first * inverse % curve.order) = some first

end Curve

end Workflow.Token
