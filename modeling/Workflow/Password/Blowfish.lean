/-!
# The Blowfish cipher with a salted key schedule

The cipher's starting tables are the first bits of the fraction of pi.  The key schedule mixes a key
and a salt into them; password hashing repeats it a number of times that grows with the cost.
-/

namespace Workflow.Password

-- Powers are those of the core library, whatever else is imported.
attribute [local instance(high)] instPowNat

/-- Words in the table that is mixed with the key. -/
def subkeyCount : Nat := 18

/-- Words in the four substitution tables together. -/
def boxCount : Nat := 1024

/-- The sum `scale / x - scale / (3 * x ^ 3) + scale / (5 * x ^ 5) - …`, which is the arc tangent of
`1 / x` on a scale.  `power` is the present quotient by a power of `x`. -/
def arcTangent (x : Nat) : Nat → Nat → Int → Int → Int
  | 0, _, _, _ => 0
  | terms + 1, divisor, power, sign =>
    if power = 0 then 0
    else sign * (power / divisor) + arcTangent x terms (divisor + 2) (power / (x * x)) (-sign)

/-- Bits kept beyond those needed, so that rounding does not reach the needed ones. -/
def guardBits : Nat := 64

/-- The first bits of the fraction of pi, as many as the tables need. -/
def piFraction : Nat :=
  let bits := 32 * (subkeyCount + boxCount)
  let scale : Int := 2 ^ (bits + guardBits)
  let tangent (x : Nat) : Int := arcTangent x bits 1 (scale / x) 1
  let pi := 16 * tangent 5 - 4 * tangent 239
  pi.toNat / 2 ^ guardBits % 2 ^ bits

/-- The words of the starting tables, in order. -/
def piWords : Array UInt32 :=
  let count := subkeyCount + boxCount
  ((List.range count).map fun i => UInt32.ofNat (piFraction >>> (32 * (count - 1 - i)))).toArray

/-- The tables of the cipher. -/
structure Blowfish where
  subkeys : Array UInt32
  boxes : Array UInt32

namespace Blowfish

/-- The tables before any key. -/
def initial : Blowfish where
  subkeys := piWords.extract 0 subkeyCount
  boxes := piWords.extract subkeyCount (subkeyCount + boxCount)

/-- Substitute a word through the four tables. -/
def substitute (cipher : Blowfish) (word : UInt32) : UInt32 :=
  let box (start : Nat) (shift : UInt32) : UInt32 :=
    cipher.boxes.getD (start + ((word >>> shift) &&& 0xff).toNat) 0
  ((box 0 24 + box 256 16) ^^^ box 512 8) + box 768 0

/-- The rounds of the cipher on the two halves of a block; two rounds a step. -/
def rounds (cipher : Blowfish) : Nat → UInt32 → UInt32 → UInt32 × UInt32
  | 0, left, right => (left, right)
  | left + 1, l, r =>
    let first := 16 - 2 * (left + 1)
    let l := l ^^^ cipher.subkeys.getD first 0
    let r := (r ^^^ cipher.substitute l) ^^^ cipher.subkeys.getD (first + 1) 0
    let l := l ^^^ cipher.substitute r
    rounds cipher left l r

/-- Encipher a block given in two halves. -/
def encipher (cipher : Blowfish) (left right : UInt32) : UInt32 × UInt32 :=
  let (l, r) := cipher.rounds 8 left right
  (r ^^^ cipher.subkeys.getD 17 0, l ^^^ cipher.subkeys.getD 16 0)

/-- The word of four bytes of a key that repeats itself. -/
def keyWord (key : Array UInt8) (index : Nat) : UInt32 :=
  (List.range 4).foldl
    (fun word i => (word <<< 8) ||| (key.getD ((4 * index + i) % key.size) 0).toUInt32) 0

/-- Mix a key into the first table. -/
def mixKey (cipher : Blowfish) (key : Array UInt8) : Blowfish :=
  { cipher with subkeys := cipher.subkeys.mapIdx fun i word => word ^^^ keyWord key i }

/-- The state of filling the tables: the cipher and the block enciphered last. -/
structure Filling where
  cipher : Blowfish
  left : UInt32
  right : UInt32

/-- Encipher the last block mixed with two words of the salt. -/
def Filling.next (salt : Array UInt32) (index : Nat) (state : Filling) : UInt32 × UInt32 :=
  state.cipher.encipher (state.left ^^^ salt.getD (2 * index % 4) 0)
    (state.right ^^^ salt.getD ((2 * index + 1) % 4) 0)

/-- Fill the first table, two words a step. -/
def fillSubkeys (salt : Array UInt32) : Nat → Filling → Filling
  | 0, state => state
  | left + 1, state =>
    let index := subkeyCount / 2 - (left + 1)
    let (l, r) := state.next salt index
    let ⟨⟨subkeys, boxes⟩, _, _⟩ := state
    fillSubkeys salt left
      ⟨⟨(subkeys.setIfInBounds (2 * index) l).setIfInBounds (2 * index + 1) r, boxes⟩, l, r⟩

/-- Fill the substitution tables, two words a step. -/
def fillBoxes (salt : Array UInt32) : Nat → Filling → Filling
  | 0, state => state
  | left + 1, state =>
    let index := boxCount / 2 - (left + 1)
    let (l, r) := state.next salt (subkeyCount / 2 + index)
    let ⟨⟨subkeys, boxes⟩, _, _⟩ := state
    fillBoxes salt left
      ⟨⟨subkeys, (boxes.setIfInBounds (2 * index) l).setIfInBounds (2 * index + 1) r⟩, l, r⟩

/-- Mix a key and a salt of four words into the tables. -/
def expand (cipher : Blowfish) (salt : Array UInt32) (key : Array UInt8) : Blowfish :=
  let state : Filling := ⟨cipher.mixKey key, 0, 0⟩
  (fillBoxes salt (boxCount / 2) (fillSubkeys salt (subkeyCount / 2) state)).cipher

/-- A salt of zeros. -/
def noSalt : Array UInt32 := #[0, 0, 0, 0]

/-- Mix the key and the salt, each as a key, into the tables, some number of times. -/
def strengthen (key salt : Array UInt8) : Nat → Blowfish → Blowfish
  | 0, cipher => cipher
  | times + 1, cipher =>
    strengthen key salt times ((cipher.expand noSalt key).expand noSalt salt)

/-- The four words of a salt of sixteen bytes. -/
def saltWords (salt : Array UInt8) : Array UInt32 := ((List.range 4).map (keyWord salt)).toArray

/-- The tables for a cost, a key and a salt. -/
def schedule (cost : Nat) (key salt : Array UInt8) : Blowfish :=
  strengthen key salt (2 ^ cost) (initial.expand (saltWords salt) key)

/-- Encipher a block a number of times. -/
def repeatEncipher (cipher : Blowfish) : Nat → UInt32 × UInt32 → UInt32 × UInt32
  | 0, block => block
  | times + 1, (left, right) => repeatEncipher cipher times (cipher.encipher left right)

end Blowfish

end Workflow.Password
