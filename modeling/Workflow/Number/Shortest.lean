import Workflow.Number.Double

/-!
# The shortest decimal of a double

Among the decimals that read back as a given double, the one with the fewest digits is chosen, and
of several such the nearest, a tie going to the even last digit.  The text writes it positionally
when its leading digit stands for `10 ^ -4` up to `10 ^ 15`, always with a point, and otherwise in
exponent form with at least two exponent digits.
-/

namespace Workflow.Number

-- Powers are those of the core library, whatever else is imported.
attribute [local instance(high)] instPowNat

/-- A decimal `coefficient * 10 ^ exponent`. -/
structure Decimal where
  coefficient : Nat
  exponent : Int
deriving DecidableEq

namespace Decimal

/-- Comparison of a decimal with `amount * 2 ^ scale`. -/
def compareScaled (d : Decimal) (amount : Nat) (scale : Int) : Ordering :=
  let tens := 10 ^ d.exponent.natAbs
  let twos := 2 ^ scale.natAbs
  let left := d.coefficient * (if d.exponent < 0 then 1 else tens) * (if scale < 0 then twos else 1)
  let right := amount * (if scale < 0 then 1 else twos) * (if d.exponent < 0 then tens else 1)
  compare left right

/-- The number of decimal digits of a positive natural. -/
def digitCount (n : Nat) : Nat := (Nat.toDigits 10 n).length

/-- Drop trailing zeros of the coefficient, at most `fuel` of them. -/
def trimZeros : Nat → Decimal → Decimal
  | 0, d => d
  | fuel + 1, d =>
    if d.coefficient ≠ 0 ∧ d.coefficient % 10 = 0 then
      trimZeros fuel ⟨d.coefficient / 10, d.exponent + 1⟩
    else d

end Decimal

namespace Double

/-- The power of ten of the leading digit of `num / den`, for a positive quotient. -/
def leadingPower (num den : Nat) : Int :=
  if den ≤ num then (Decimal.digitCount (num / den) : Int) - 1
  else
    let least := (den + num - 1) / num
    Int.negOfNat (Decimal.digitCount (least - 1))

/-- Whether a decimal reads back as the positive finite double `x`: it lies between the midpoints
to its neighbours, which themselves belong to `x` when its significand is even. -/
def readsBack (x : Double) (d : Decimal) : Bool :=
  let m := x.significand
  let unit := x.scale - 2
  let below := if x.fractionField == 0 && 1 < x.exponentField then 4 * m - 1 else 4 * m - 2
  let above := 4 * m + 2
  let low := d.compareScaled below unit
  let high := d.compareScaled above unit
  if m % 2 = 0 then low != .lt && high != .gt else low == .gt && high == .lt

/-- The floor of a positive finite double on the grid of multiples of `10 ^ exponent`. -/
def floorOn (x : Double) (exponent : Int) : Nat :=
  let (num, den) := x.ratio
  if exponent < 0 then num * 10 ^ exponent.natAbs / den else num / (den * 10 ^ exponent.natAbs)

/-- The neighbour on the grid that reads back; of two, the nearer. -/
def onGrid? (x : Double) (exponent : Int) : Option Decimal :=
  let down : Decimal := ⟨x.floorOn exponent, exponent⟩
  let up : Decimal := ⟨down.coefficient + 1, exponent⟩
  match x.readsBack down, x.readsBack up with
  | true, true =>
    -- compare the midpoint of the two candidates with the value itself
    let middle : Decimal := ⟨2 * down.coefficient + 1, exponent⟩
    match middle.compareScaled (2 * x.significand) x.scale with
    | .lt => some up
    | .gt => some down
    | .eq => some (if down.coefficient % 2 = 0 then down else up)
  | true, false => some down
  | false, true => some up
  | false, false => none

/-- The first grid with a hit, from `digits` significant digits on; seventeen always suffice. -/
def firstGrid (x : Double) (leading : Int) (digits : Nat) : Nat → Decimal
  | 0 => ⟨x.floorOn (leading - 16), leading - 16⟩
  | fuel + 1 =>
    match x.onGrid? (leading - (digits : Int) + 1) with
    | some d => d
    | none => firstGrid x leading (digits + 1) fuel

/-- The shortest decimal that reads back as a positive finite double. -/
def shortest (x : Double) : Decimal :=
  let (num, den) := x.ratio
  Decimal.trimZeros 20 (firstGrid x (leadingPower num den) 1 17)

/-- The layout of a positive decimal. -/
def layout (d : Decimal) : String :=
  let digits := Nat.toDigits 10 d.coefficient
  let leading : Int := d.exponent + digits.length - 1
  if leading < -4 ∨ 16 ≤ leading then
    let tail := digits.drop 1
    let mantissa := digits.take 1 ++ (if tail.isEmpty then [] else '.' :: tail)
    let power := Nat.toDigits 10 leading.natAbs
    let padded := if power.length < 2 then '0' :: power else power
    String.ofList (mantissa ++ ['e', if leading < 0 then '-' else '+'] ++ padded)
  else if leading < 0 then
    String.ofList ('0' :: '.' :: List.replicate (leading.natAbs - 1) '0' ++ digits)
  else
    let whole := leading.toNat + 1
    let padded := digits ++ List.replicate (whole - digits.length) '0'
    let fraction := padded.drop whole
    String.ofList (padded.take whole ++ '.' :: (if fraction.isEmpty then ['0'] else fraction))

/-- The text of a double. -/
def text (x : Double) : String :=
  let sign := if x.isNegative then "-" else ""
  if x.isNaN then "nan"
  else if x.isInfinite then sign ++ "inf"
  else if x.isZero then sign ++ "0.0"
  else sign ++ layout x.shortest

end Double

end Workflow.Number
