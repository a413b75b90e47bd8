/-!
# The SHA-2 digests

The members of the family differ in word size, number of rounds, rotation amounts, starting words
and length of the digest.  Their constants are the first bits of the fractional parts of square and
cube roots of primes, and are computed here.  Words are naturals below the word modulus.
-/

namespace Workflow.Digest

-- Powers are those of the core library, whatever else is imported.
attribute [local instance(high)] instPowNat

/-- Whether a number is prime, by trial division. -/
def isPrime (n : Nat) : Bool := 2 ≤ n && (List.range n).all fun d => d < 2 || n % d != 0

/-- The first eighty primes. -/
def primes : List Nat := (List.range 410).filter isPrime

/-- The largest number whose `degree`-th power is at most `n`, searched bit by bit from a bit of the
given height on down. -/
def integerRoot (degree n : Nat) : Nat → Nat → Nat
  | 0, root => if (root + 1) ^ degree ≤ n then root + 1 else root
  | height + 1, root =>
    let next := root + 2 ^ (height + 1)
    integerRoot degree n height (if next ^ degree ≤ n then next else root)

/-- The first `bits` bits of the fractional part of a root of `n`. -/
def rootFraction (degree bits n : Nat) : Nat :=
  integerRoot degree (n * 2 ^ (degree * bits)) (bits + 5) 0 % 2 ^ bits

/-- Two rotations and a third one, or a shift. -/
structure Mixer where
  first : Nat
  second : Nat
  third : Nat
  shifts : Bool := false

/-- A member of the family. -/
structure Sha2 where
  /-- Bits of a word. -/
  bits : Nat
  rounds : Nat
  start : List Nat
  /-- Bytes of the digest. -/
  size : Nat
  choiceMixer : Mixer
  majorityMixer : Mixer
  earlyMixer : Mixer
  lateMixer : Mixer

namespace Sha2

/-- SHA-256. -/
def sha256 : Sha2 where
  bits := 32
  rounds := 64
  start := (primes.take 8).map (rootFraction 2 32)
  size := 32
  choiceMixer := ⟨6, 11, 25, false⟩
  majorityMixer := ⟨2, 13, 22, false⟩
  earlyMixer := ⟨7, 18, 3, true⟩
  lateMixer := ⟨17, 19, 10, true⟩

/-- SHA-512. -/
def sha512 : Sha2 where
  bits := 64
  rounds := 80
  start := (primes.take 8).map (rootFraction 2 64)
  size := 64
  choiceMixer := ⟨14, 18, 41, false⟩
  majorityMixer := ⟨28, 34, 39, false⟩
  earlyMixer := ⟨1, 8, 7, true⟩
  lateMixer := ⟨19, 61, 6, true⟩

/-- SHA-384 is SHA-512 with other starting words, cut off. -/
def sha384 : Sha2 :=
  { sha512 with start := ((primes.drop 8).take 8).map (rootFraction 2 64), size := 48 }

/-- The round constants. -/
def constants (sha : Sha2) : List Nat := (primes.take sha.rounds).map (rootFraction 3 sha.bits)

/-- Bytes of a block. -/
def blockSize (sha : Sha2) : Nat := 2 * sha.bits

/-- Bytes of a word. -/
def wordSize (sha : Sha2) : Nat := sha.bits / 8

/-- Addition of words. -/
def add (sha : Sha2) (x y : Nat) : Nat := (x + y) % 2 ^ sha.bits

/-- Rotation of a word to the right. -/
def rotate (sha : Sha2) (word amount : Nat) : Nat :=
  word / 2 ^ amount + word % 2 ^ amount * 2 ^ (sha.bits - amount)

/-- Apply a mixer to a word. -/
def mix (sha : Sha2) (mixer : Mixer) (word : Nat) : Nat :=
  let last := if mixer.shifts then word / 2 ^ mixer.third else sha.rotate word mixer.third
  (sha.rotate word mixer.first ^^^ sha.rotate word mixer.second) ^^^ last

/-- The number that bytes stand for, the first being the most significant. -/
def ofBytes (bytes : List UInt8) : Nat :=
  bytes.foldl (fun total byte => total * 256 + byte.toNat) 0

/-- The bytes of a number, the first being the most significant. -/
def toBytes (count number : Nat) : List UInt8 :=
  (List.range count).map fun i => UInt8.ofNat (number / 256 ^ (count - 1 - i) % 256)

/-- Cut a list into pieces of a positive size. -/
def pieces {α : Type} (size : Nat) : Nat → List α → List (List α)
  | 0, _ => []
  | fuel + 1, items =>
    if items.isEmpty then [] else items.take size :: pieces size fuel (items.drop size)

/-- A message with a one bit, zeros and its length in bits, to a whole number of blocks. -/
def pad (sha : Sha2) (message : List UInt8) : List UInt8 :=
  let lengthSize := 2 * sha.wordSize
  let used := (message.length + 1 + lengthSize) % sha.blockSize
  let zeros := (sha.blockSize - used) % sha.blockSize
  message ++ 0x80 :: List.replicate zeros 0 ++ toBytes lengthSize (8 * message.length)

/-- The words of a block, extended to one for each round. -/
def schedule (sha : Sha2) (block : List UInt8) : Array Nat :=
  let words := ((pieces sha.wordSize 16 block).map ofBytes).toArray
  (List.range (sha.rounds - 16)).foldl
    (fun words i =>
      let early := sha.mix sha.earlyMixer (words.getD (i + 1) 0)
      let late := sha.mix sha.lateMixer (words.getD (i + 14) 0)
      words.push
        (sha.add (sha.add late (words.getD (i + 9) 0)) (sha.add early (words.getD i 0))))
    words

/-- The eight working words. -/
structure State where
  a : Nat
  b : Nat
  c : Nat
  d : Nat
  e : Nat
  f : Nat
  g : Nat
  h : Nat

namespace State

/-- The working words as a list. -/
def toList (s : State) : List Nat := [s.a, s.b, s.c, s.d, s.e, s.f, s.g, s.h]

/-- Working words from a list of eight. -/
def ofList : List Nat → State
  | [a, b, c, d, e, f, g, h] => ⟨a, b, c, d, e, f, g, h⟩
  | _ => ⟨0, 0, 0, 0, 0, 0, 0, 0⟩

end State

/-- One round, with the sum of its schedule word and its constant. -/
def round (sha : Sha2) (s : State) (input : Nat) : State :=
  let choice := (s.e &&& s.f) ^^^ ((2 ^ sha.bits - 1 - s.e) &&& s.g)
  let majority := ((s.a &&& s.b) ^^^ (s.a &&& s.c)) ^^^ (s.b &&& s.c)
  let first := s.h + sha.mix sha.choiceMixer s.e + choice + input
  let second := sha.mix sha.majorityMixer s.a + majority
  ⟨sha.add first second, s.a, s.b, s.c, sha.add s.d first, s.e, s.f, s.g⟩

/-- Take one block into the state. -/
def absorb (sha : Sha2) (constants : List Nat) (state : List Nat) (block : List UInt8) : List Nat :=
  let inputs := List.zipWith (· + ·) (sha.schedule block).toList constants
  let final := inputs.foldl sha.round (State.ofList state)
  List.zipWith sha.add state final.toList

/-- The digest of a message. -/
def digest (sha : Sha2) (message : List UInt8) : List UInt8 :=
  let padded := sha.pad message
  let blocks := pieces sha.blockSize padded.length padded
  let final := blocks.foldl (sha.absorb sha.constants) sha.start
  (final.flatMap (toBytes sha.wordSize)).take sha.size

end Sha2

/-- The keyed digest of a message: a key longer than a block is itself digested first. -/
def hmac (sha : Sha2) (key message : List UInt8) : List UInt8 :=
  let short := if sha.blockSize < key.length then sha.digest key else key
  let block := short ++ List.replicate (sha.blockSize - short.length) 0
  let inner := sha.digest (block.map (· ^^^ 0x36) ++ message)
  sha.digest (block.map (· ^^^ 0x5c) ++ inner)

end Workflow.Digest
