/-!
# Double-precision numbers

A double is its sixty-four bits.  Finite ones are read exactly, as a sign and a significand times a
power of two, and every double that this library computes is the one nearest to an exact quotient
of integers.  All arithmetic is therefore integer arithmetic, and equality of bits is decidable.
-/

namespace Workflow.Number

-- Powers are those of the core library, whatever else is imported.
attribute [local instance(high)] instPowNat

/-- A number in the 64-bit binary format. -/
structure Double where
  bits : UInt64
deriving DecidableEq

namespace Double

/-- The sign bit. -/
def isNegative (x : Double) : Bool := x.bits.toNat / 2 ^ (63 : Nat) == 1

/-- The eleven exponent bits. -/
def exponentField (x : Double) : Nat := x.bits.toNat / 2 ^ (52 : Nat) % 2 ^ (11 : Nat)

/-- The fifty-two fraction bits. -/
def fractionField (x : Double) : Nat := x.bits.toNat % 2 ^ (52 : Nat)

/-- Neither infinite nor a NaN. -/
def isFinite (x : Double) : Bool := x.exponentField != 2047

/-- The two infinities. -/
def isInfinite (x : Double) : Bool := x.exponentField == 2047 && x.fractionField == 0

/-- Not a number. -/
def isNaN (x : Double) : Bool := x.exponentField == 2047 && x.fractionField != 0

/-- The magnitude of a finite double is `significand * 2 ^ scale`. -/
def significand (x : Double) : Nat :=
  if x.exponentField == 0 then x.fractionField else 2 ^ (52 : Nat) + x.fractionField

/-- The power of two that goes with `significand`. -/
def scale (x : Double) : Int :=
  if x.exponentField == 0 then -1074 else (x.exponentField : Int) - 1075

/-- Both zeros. -/
def isZero (x : Double) : Bool := x.exponentField == 0 && x.fractionField == 0

/-- A double with the given sign bit and the given other bits. -/
def assemble (negative : Bool) (magnitude : Nat) : Double :=
  ⟨UInt64.ofNat (if negative then 2 ^ (63 : Nat) + magnitude else magnitude)⟩

/-- The infinity of a sign. -/
def infinity (negative : Bool) : Double := assemble negative (2047 * 2 ^ (52 : Nat))

/-- The NaN that texts denote. -/
def nan : Double := assemble false (2047 * 2 ^ (52 : Nat) + 2 ^ (51 : Nat))

/-- Division rounded to the nearest integer, a tie to the even one. -/
def roundQuotient (num den : Nat) : Nat :=
  let floor := num / den
  let rest := 2 * (num % den)
  if rest < den then floor
  else if den < rest then floor + 1
  else if floor % 2 = 0 then floor else floor + 1

/-- The quotient `num / den` as a quotient of naturals after division by `2 ^ scale`. -/
def unscale (num den : Nat) (scale : Int) : Nat × Nat :=
  if scale < 0 then (num * 2 ^ scale.natAbs, den) else (num, den * 2 ^ scale.natAbs)

/-- The power of two that leaves a quotient fifty-three significant bits, or fewer below the
normal range. -/
def scaleOf (num den : Nat) : Int :=
  let guess : Int := (Nat.log2 num : Int) - Nat.log2 den - 53
  let (n, d) := unscale num den guess
  max (if 2 ^ (53 : Nat) ≤ n / d then guess + 1 else guess) (-1074)

/-- The double nearest to `num / den` in magnitude, a tie going to the even significand, with the
given sign; too large a quotient gives an infinity. -/
def ofRatio (negative : Bool) (num den : Nat) : Double :=
  if num = 0 ∨ den = 0 then assemble negative 0
  else
    let scale := scaleOf num den
    let (n, d) := unscale num den scale
    let magnitude := (scale + 1074).toNat * 2 ^ (52 : Nat) + roundQuotient n d
    if 2047 * 2 ^ (52 : Nat) ≤ magnitude then infinity negative else assemble negative magnitude

/-- The double nearest to an integer. -/
def ofInt (i : Int) : Double := ofRatio (i < 0) i.natAbs 1

/-- The double nearest to `digits * 10 ^ exponent`.  Exponents far outside the format's range are
not multiplied out. -/
def ofDecimal (negative : Bool) (digits : Nat) (exponent : Int) : Double :=
  let size : Int := (Nat.log2 digits : Int) / 3 + exponent
  if digits = 0 then assemble negative 0
  else if 800 < size ∧ 800 < exponent then infinity negative
  else if (Nat.log2 digits : Int) + exponent < -800 then assemble negative 0
  else if exponent < 0 then ofRatio negative digits (10 ^ exponent.natAbs)
  else ofRatio negative (digits * 10 ^ exponent.natAbs) 1

/-- The exact magnitude of a finite double as a quotient. -/
def ratio (x : Double) : Nat × Nat :=
  if x.scale < 0 then (x.significand, 2 ^ x.scale.natAbs)
  else (x.significand * 2 ^ x.scale.natAbs, 1)

/-- The integer that a double is, if it is one. -/
def whole? (x : Double) : Option Int :=
  if x.isFinite && x.ratio.1 % x.ratio.2 == 0 then
    let size : Int := (x.ratio.1 / x.ratio.2 : Nat)
    some (if x.isNegative then -size else size)
  else none

/-- The double nearest to a finite double divided by a positive integer. -/
def divNat (x : Double) (divisor : Nat) : Double :=
  if x.isFinite then ofRatio x.isNegative x.ratio.1 (x.ratio.2 * divisor) else x

/-- Numerical equality: the zeros are equal and a NaN equals nothing. -/
def same (x y : Double) : Bool :=
  !x.isNaN && !y.isNaN && (x.bits == y.bits || (x.isZero && y.isZero))

/-- Exact equality of an integer and a double. -/
def sameInt (i : Int) (x : Double) : Bool :=
  x.isFinite && i.natAbs * x.ratio.2 == x.ratio.1 && (i == 0 || (decide (i < 0)) == x.isNegative)

end Double

end Workflow.Number
