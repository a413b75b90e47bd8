import Workflow.Moment
import Workflow.Record.Reader

/-!
# Timestamps

A timestamp is what a clock shows, with the zone of the clock when that is known.  It is given as a
date, mostly with a time of day, or as a number of seconds or milliseconds since the start of 1970.
-/

namespace Workflow

open Number (Double)
open Record (Checked)

/-- What a clock shows, and how many seconds it is ahead of universal time. -/
structure Timestamp where
  moment : Moment
  zone : Option Int := none
deriving DecidableEq

namespace Timestamp

open Moment (digits? padded)

/-- The text of a zone; one that is not known is not written. -/
def zoneText : Option Int → String
  | none => ""
  | some seconds =>
    if seconds = 0 then "Z"
    else
      let minutes := (seconds.natAbs / 60 : Nat)
      (if seconds < 0 then "-" else "+") ++ padded 2 (minutes / 60 : Nat) ++ ":" ++
        padded 2 (minutes % 60 : Nat)

/-- The ISO text of a timestamp. -/
def text (stamp : Timestamp) : String := stamp.moment.text ++ zoneText stamp.zone

/-- The microseconds at the start of a date written with hyphens; there is a year zero. -/
def readDate? (chars : List Char) : Option Int :=
  match chars with
  | [y1, y2, y3, y4, '-', m1, m2, '-', d1, d2] => do
    let year ← digits? [y1, y2, y3, y4]
    let month ← digits? [m1, m2]
    let day ← digits? [d1, d2]
    if 1 ≤ month ∧ month ≤ 12 ∧ 1 ≤ day ∧ day ≤ Moment.monthLength year month then
      some (Moment.daysOfDate year month day * Moment.dayMicros)
    else none
  | _ => none

/-- Whether a character sets off the fraction of a second. -/
def isFractionMark (c : Char) : Bool := c = '.' || c = ','

/-- The microseconds of a fraction of a second, and what follows it; digits after the sixth are
dropped. -/
def readFraction? (chars : List Char) : Option (Nat × List Char) :=
  match chars with
  | [] => some (0, [])
  | mark :: rest =>
    if isFractionMark mark then
      let digits := rest.takeWhile Char.isDigit
      if digits.isEmpty then none
      else
        (digits? ((digits ++ List.replicate 6 '0').take 6)).map (·, rest.dropWhile Char.isDigit)
    else some (0, mark :: rest)

/-- The microseconds since midnight of a time of day, and what follows it. -/
def readTime? (chars : List Char) : Option (Int × List Char) :=
  match chars with
  | h1 :: h2 :: ':' :: m1 :: m2 :: rest => do
    let hour ← digits? [h1, h2]
    let minute ← digits? [m1, m2]
    let (second, micros, left) ← match rest with
      | ':' :: s1 :: s2 :: more => do
        let second ← digits? [s1, s2]
        let (micros, left) ← readFraction? more
        pure (second, micros, left)
      | ':' :: _ => none
      | _ => some (0, 0, rest)
    if hour < 24 ∧ minute < 60 ∧ second < 60 then
      some ((((hour * 60 + minute) * 60 + second) * 1000000 + micros : Nat), left)
    else none
  | _ => none

/-- The sign before a zone's hours. -/
def zoneSign? (c : Char) : Option Int :=
  if c = '+' then some 1 else if c = '-' ∨ c = '\u2212' then some (-1) else none

/-- The zone at the end of a time of day, less than a day ahead or behind. -/
def readZone? (chars : List Char) : Option (Option Int) :=
  match chars with
  | [] => some none
  | ['Z'] | ['z'] => some (some 0)
  | [mark, h1, h2, ':', m1, m2] | [mark, h1, h2, m1, m2] => do
    let sign ← zoneSign? mark
    let hour ← digits? [h1, h2]
    let minute ← digits? [m1, m2]
    if hour < 24 ∧ minute < 60 then some (some (sign * ((hour * 60 + minute) * 60 : Nat)))
    else none
  | _ => none

/-- Whether a character sets the time of day apart from the date. -/
def isSeparator (c : Char) : Bool := c = 'T' || c = 't' || c = ' ' || c = '_'

/-- The timestamp that a date, mostly with a time of day, denotes. -/
def ofIso? (chars : List Char) : Option Timestamp := do
  let date ← readDate? (chars.take 10)
  match chars.drop 10 with
  | [] => some { moment := ⟨date⟩ }
  | separator :: rest =>
    if isSeparator separator then do
      let (micros, left) ← readTime? rest
      let zone ← readZone? left
      return { moment := ⟨date + micros⟩, zone }
    else none

/-- The greatest number that counts as seconds; beyond it numbers are milliseconds. -/
def secondsLimit : Nat := 20000000000

/-- The timestamp a whole number of seconds or milliseconds and some microseconds after the start
of 1970, in universal time. -/
def ofUnix (whole micros : Int) : Timestamp :=
  let unit := if whole.natAbs ≤ secondsLimit then 1000000 else 1000
  { moment := ⟨whole * unit + micros⟩, zone := some 0 }

/-- The timestamp that a finite double denotes. -/
def ofDouble (number : Double) : Timestamp :=
  let (num, den) := number.ratio
  let signed : Int := if number.isNegative then -(num : Int) else num
  let whole := signed.fdiv den
  let rest := (signed - whole * den).toNat
  ofUnix whole (Double.roundQuotient (rest * 1000000) den)

/-- The timestamp that a number written as text denotes: decimal digits, with or without a sign and
a fraction. -/
def ofNumber? (chars : List Char) : Option Timestamp := do
  let (negative, body) := Number.Literal.sign chars
  let digits := body.takeWhile Char.isDigit
  let whole ← digits? digits
  match body.dropWhile Char.isDigit with
  | [] => some (ofUnix (if negative then -(whole : Int) else whole) 0)
  | '.' :: decimals =>
    if decimals.all Char.isDigit then do
      let all ← digits? (digits ++ decimals)
      let number := Double.ofDecimal negative all (-(decimals.length : Int))
      if number.isFinite then some (ofDouble number) else none
    else none
  | _ => none

/-- Whether a timestamp lies in the years that there are. -/
def isDated (stamp : Timestamp) : Bool := 1 ≤ stamp.moment.year && stamp.moment.year ≤ 9999

/-- A timestamp that has to lie in the years that there are. -/
def dated (stamp : Timestamp) : Checked Timestamp :=
  if stamp.isDated then .ok stamp else .violated .dateTimeRange

/-- Read a timestamp written as text.  A number that lies too far away is no timestamp at all. -/
def ofText (written : String) : Checked Timestamp :=
  match ofIso? written.toList with
  | some stamp => dated stamp
  | none =>
    match (ofNumber? written.toList).filter isDated with
    | some stamp => .ok stamp
    | none => .violated .dateTimeText

/-- Read a timestamp. -/
def read : Value → Checked Timestamp
  | .str written => ofText written
  | .int number =>
    if (Double.ofInt number).isFinite then dated (ofUnix number 0) else .violated .dateTime
  | .float number =>
    if number.isFinite then dated (ofDouble number) else .violated .dateTimeRange
  | _ => .violated .dateTime

end Timestamp

end Workflow
