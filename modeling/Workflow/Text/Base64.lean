/-!
# Base64

The encoding has the alphabet of letters, digits, hyphen and underscore and no padding, as URLs need
it.  Decoding is lenient: it passes over bytes outside its alphabet and stops at padding that
completes a group.  The ordinary alphabet has plus and slash; the one for URLs has all four marks
when it is decoded.
-/

namespace Workflow.Text.Base64

/-- The character of a six-bit value. -/
def letter (value : Nat) : Char :=
  if value < 26 then Char.ofNat (value + 'A'.toNat)
  else if value < 52 then Char.ofNat (value - 26 + 'a'.toNat)
  else if value < 62 then Char.ofNat (value - 52 + '0'.toNat)
  else if value = 62 then '-'
  else '_'

/-- The characters of bytes. -/
def encodeChars : List UInt8 → List Char
  | [] => []
  | [a] =>
    let bits := a.toNat * 16
    [letter (bits / 64), letter (bits % 64)]
  | [a, b] =>
    let bits := (a.toNat * 256 + b.toNat) * 4
    [letter (bits / 4096), letter (bits / 64 % 64), letter (bits % 64)]
  | a :: b :: c :: rest =>
    let bits := (a.toNat * 256 + b.toNat) * 256 + c.toNat
    letter (bits / 262144) :: letter (bits / 4096 % 64) :: letter (bits / 64 % 64) ::
      letter (bits % 64) :: encodeChars rest

/-- The encoding of bytes. -/
def encode (bytes : List UInt8) : String := String.ofList (encodeChars bytes)

/-- The alphabets of encodings that are read. -/
inductive Alphabet where
  | ordinary
  | url
deriving DecidableEq

/-- The six-bit value of a byte of an encoding. -/
def Alphabet.value? (alphabet : Alphabet) (byte : UInt8) : Option Nat :=
  let b := byte.toNat
  if 0x41 ≤ b ∧ b ≤ 0x5a then some (b - 0x41)
  else if 0x61 ≤ b ∧ b ≤ 0x7a then some (b - 0x61 + 26)
  else if 0x30 ≤ b ∧ b ≤ 0x39 then some (b - 0x30 + 52)
  else if b = 0x2b then some 62
  else if b = 0x2f then some 63
  else if alphabet = .url ∧ b = 0x2d then some 62
  else if alphabet = .url ∧ b = 0x5f then some 63
  else none

/-- Why bytes are no encoding: they end within a group. -/
inductive Problem where
  /-- One character of the group is there; `count` are there of all groups. -/
  | single (count : Nat)
  /-- Two or three characters are there, and too little padding. -/
  | padding
deriving DecidableEq

/-- The wording of a problem. -/
def Problem.wording : Problem → String
  | .single count =>
    s!"Invalid base64-encoded string: number of data characters ({count}) cannot be 1 more " ++
      "than a multiple of 4"
  | .padding => "Incorrect padding"

/-- The values of a group read so far, first one first, the padding seen since, and the number of
complete groups before it. -/
structure Group where
  values : List Nat := []
  padding : Nat := 0
  before : Nat := 0

/-- The bytes that a group of two, three or four values stands for. -/
def Group.bytes : List Nat → List UInt8
  | [a, b] => [UInt8.ofNat (a * 4 + b / 16)]
  | [a, b, c] => [UInt8.ofNat (a * 4 + b / 16), UInt8.ofNat (b % 16 * 16 + c / 4)]
  | [a, b, c, d] =>
    [UInt8.ofNat (a * 4 + b / 16), UInt8.ofNat (b % 16 * 16 + c / 4), UInt8.ofNat (c % 4 * 64 + d)]
  | _ => []

/-- Decode from within a group. -/
def decodeFrom (alphabet : Alphabet) (group : Group) : List UInt8 → Except Problem (List UInt8)
  | [] =>
    match group.values with
    | [] => .ok []
    | [_] => .error (.single (4 * group.before + 1))
    | _ => .error .padding
  | byte :: rest =>
    if byte = 0x3d then
      let padding := group.padding + 1
      if 2 ≤ group.values.length ∧ 4 ≤ group.values.length + padding then
        .ok (Group.bytes group.values)
      else if 2 ≤ group.values.length then decodeFrom alphabet { group with padding } rest
      else decodeFrom alphabet group rest
    else
      match alphabet.value? byte with
      | none => decodeFrom alphabet group rest
      | some value =>
        let values := group.values ++ [value]
        if values.length = 4 then
          (decodeFrom alphabet { before := group.before + 1 } rest).map (Group.bytes values ++ ·)
        else decodeFrom alphabet { values, before := group.before } rest

/-- The bytes of an encoding in the ordinary alphabet. -/
def decodeOrdinary (bytes : List UInt8) : Except Problem (List UInt8) :=
  decodeFrom .ordinary {} bytes

/-- The bytes of an encoding for URLs, which is first padded to a multiple of four. -/
def decode (bytes : List UInt8) : Except Problem (List UInt8) :=
  decodeFrom .url {} (bytes ++ List.replicate ((4 - bytes.length % 4) % 4) 0x3d)

/-- The bytes of an encoding for URLs, padded as far as any can need it. -/
def decodePadded (bytes : List UInt8) : Except Problem (List UInt8) :=
  decodeFrom .url {} (bytes ++ [0x3d, 0x3d])

end Workflow.Text.Base64
