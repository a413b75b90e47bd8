import Workflow.Handler.Basic
import Workflow.Password.Blowfish
import Workflow.Text.Utf8

/-!
# Password hashes

A password hash names its version, its cost and its salt, followed by a fixed text enciphered under
the tables that password, cost and salt give.  A password is checked by hashing it again with what
the stored hash names.
-/

namespace Workflow.Password

-- Powers are those of the core library, whatever else is imported.
attribute [local instance(high)] instPowNat

/-- The alphabet of the encoding in hashes. -/
def alphabet : List Char :=
  "./ABCDEFGHIJKLMNOPQRSTUVWXYZabcdefghijklmnopqrstuvwxyz0123456789".toList

/-- The character of a six-bit value. -/
def letter (value : Nat) : Char := alphabet.getD value '.'

/-- The value of a character of the alphabet. -/
def value? (c : Char) : Option Nat := alphabet.findIdx? (· = c)

/-- The encoding of bytes. -/
def encode : List UInt8 → List Char
  | [] => []
  | [a] => [letter (a.toNat / 4), letter (a.toNat % 4 * 16)]
  | [a, b] =>
    [letter (a.toNat / 4), letter (a.toNat % 4 * 16 + b.toNat / 16), letter (b.toNat % 16 * 4)]
  | a :: b :: c :: rest =>
    letter (a.toNat / 4) :: letter (a.toNat % 4 * 16 + b.toNat / 16) ::
      letter (b.toNat % 16 * 4 + c.toNat / 64) :: letter (c.toNat % 64) :: encode rest

/-- The bytes that values of six bits encode. -/
def decodeValues : List Nat → List UInt8
  | a :: b :: c :: d :: rest =>
    UInt8.ofNat (a * 4 + b / 16) :: UInt8.ofNat (b % 16 * 16 + c / 4) ::
      UInt8.ofNat (c % 4 * 64 + d) :: decodeValues rest
  | [a, b, c] => [UInt8.ofNat (a * 4 + b / 16), UInt8.ofNat (b % 16 * 16 + c / 4)]
  | [a, b] => [UInt8.ofNat (a * 4 + b / 16)]
  | _ => []

/-- The length of an encoded salt. -/
def saltLength : Nat := 22

/-- The bytes of an encoded salt. -/
def decodeSalt? (chars : List Char) : Option (List UInt8) :=
  if chars.length = saltLength then (chars.mapM value?).map decodeValues else none

/-- The text that is enciphered. -/
def plainText : List UInt8 := Text.Utf8.encode "OrpheanBeholderScryDoubt"

/-- The four bytes of a word. -/
def wordBytes (word : UInt32) : List UInt8 :=
  [(word >>> 24).toUInt8, (word >>> 16).toUInt8, (word >>> 8).toUInt8, word.toUInt8]

/-- The bytes that a password, a cost and a salt give. -/
def derive (password : List UInt8) (cost : Nat) (salt : List UInt8) : List UInt8 :=
  let key := ((password ++ [0]).take 72).toArray
  let cipher := Blowfish.schedule cost key salt.toArray
  let plain := plainText.toArray
  let blocks := (List.range 3).map fun i =>
    cipher.repeatEncipher 64
      (Blowfish.keyWord plain (2 * i), Blowfish.keyWord plain (2 * i + 1))
  (blocks.flatMap fun block => wordBytes block.1 ++ wordBytes block.2).take 23

/-- The least and the greatest cost. -/
def costLimits : Nat × Nat := (4, 31)

/-- The most bytes a password may have. -/
def maxBytes : Nat := 72

/-- The hash of a password. -/
def assemble (version : String) (cost : Nat) (salt : List UInt8) (password : List UInt8) : String :=
  let digits := Nat.toDigits 10 cost
  let padded := if digits.length < 2 then '0' :: digits else digits
  "$" ++ version ++ "$" ++ String.ofList padded ++ "$" ++
    String.ofList (encode salt ++ encode (derive password cost salt))

/-- The fault of a password that is too long. -/
def tooLong : Fault :=
  .reported .value
    ("password cannot be longer than 72 bytes, truncate manually if necessary " ++
      "(e.g. my_password[:72])")

/-- The cost that an integer denotes.  One that does not fit a word of sixty-four or of sixteen bits
is refused as such. -/
def readCost (cost : Int) : Except Fault Nat :=
  if cost < -(2 ^ (63 : Nat)) ∨ 2 ^ (63 : Nat) ≤ cost then
    .error (.reported .overflow "Python int too large to convert to C long")
  else if cost < 0 ∨ 2 ^ (16 : Nat) ≤ cost then
    .error (.reported .overflow "out of range integral type conversion attempted")
  else if cost < costLimits.1 ∨ costLimits.2 < cost then
    .error (.reported .value "Invalid rounds")
  else .ok cost.toNat

/-- Hash the text of a value with a cost and a salt. -/
def hash (cost : Int) (salt : String) (plain : Value) : Except Fault String := do
  let cost ← readCost cost
  let text ← plain.text
  let password := Text.Utf8.encode text
  if maxBytes < password.length then .error tooLong
  else
    match decodeSalt? salt.toList with
    | some bytes => .ok (assemble "2b" cost bytes password)
    | none => .error (.reported .value "Invalid salt")

/-- What a stored hash names: version, cost and salt. -/
structure Parameters where
  version : String
  cost : Nat
  salt : List UInt8

/-- Read the parameters of a stored hash. -/
def Parameters.read? (stored : String) : Option Parameters :=
  match stored.toList with
  | '$' :: '2' :: v :: '$' :: c1 :: c2 :: '$' :: rest => do
    let cost ← Moment.digits? [c1, c2]
    let salt ← decodeSalt? (rest.take saltLength)
    if ['a', 'b', 'x', 'y'].contains v ∧ costLimits.1 ≤ cost ∧ cost ≤ costLimits.2 then
      some ⟨String.ofList ['2', v], cost, salt⟩
    else none
  | _ => none

/-- Whether the text of a value has a given hash; what is no hash is the hash of nothing. -/
def verify (plain stored : Value) : Except Fault Bool :=
  match plain.text, stored.text with
  | .ok text, .ok hashed =>
    let password := Text.Utf8.encode text
    if maxBytes < password.length then .ok false
    else
      match Parameters.read? hashed with
      | none => .ok false
      | some parameters =>
        .ok (assemble parameters.version parameters.cost parameters.salt password = hashed)
  | .error cause, _ => if cause.kind = .value then .ok false else .error cause
  | _, .error cause => if cause.kind = .value then .ok false else .error cause

/-- The hasher with a cost; `salt` gives the salt drawn at each call. -/
def hasher (cost : Int) (salt : Nat → String) : Hasher where
  hash := fun call plain => ((hash cost (salt call) plain).map .str).mapError .fault
  verify := fun _ plain stored => ((verify plain stored).map .bool).mapError .fault

end Workflow.Password
