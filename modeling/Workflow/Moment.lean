import Workflow.Fault
import Workflow.Record.Reader

/-!
# Moments

A moment is a number of microseconds since the start of 1970, without a time zone.  Its text is the
ISO form, with six fraction digits only when they are not all zero.
-/

namespace Workflow

open Number (Double)

-- Powers are those of the core library, whatever else is imported.
attribute [local instance(high)] instPowNat

/-- A moment in time. -/
structure Moment where
  micros : Int
deriving DecidableEq, Inhabited

namespace Moment

/-- Days since the start of 1970 of a date in the Gregorian calendar.  Years are counted from March,
so that a leap day is the last of its year. -/
def daysOfDate (year month day : Int) : Int :=
  let shifted := if month ≤ 2 then year - 1 else year
  let era := shifted.fdiv 400
  let yearOfEra := shifted - era * 400
  let monthFromMarch := (month + 9).fmod 12
  let dayOfYear := (153 * monthFromMarch + 2).fdiv 5 + day - 1
  let dayOfEra := yearOfEra * 365 + yearOfEra.fdiv 4 - yearOfEra.fdiv 100 + dayOfYear
  era * 146097 + dayOfEra - 719468

/-- The date, as year, month and day, of a number of days since the start of 1970. -/
def dateOfDays (days : Int) : Int × Int × Int :=
  let shifted := days + 719468
  let era := shifted.fdiv 146097
  let dayOfEra := shifted - era * 146097
  let yearOfEra :=
    (dayOfEra - dayOfEra.fdiv 1460 + dayOfEra.fdiv 36524 - dayOfEra.fdiv 146096).fdiv 365
  let dayOfYear := dayOfEra - (365 * yearOfEra + yearOfEra.fdiv 4 - yearOfEra.fdiv 100)
  let monthFromMarch := (5 * dayOfYear + 2).fdiv 153
  let day := dayOfYear - (153 * monthFromMarch + 2).fdiv 5 + 1
  let month := if monthFromMarch < 10 then monthFromMarch + 3 else monthFromMarch - 9
  let year := yearOfEra + era * 400
  (if month ≤ 2 then year + 1 else year, month, day)

/-- Microseconds of a day. -/
def dayMicros : Int := 86400000000

/-- Decimal digits, padded with zeros to a width. -/
def padded (width : Nat) (number : Int) : String :=
  let digits := Nat.toDigits 10 number.toNat
  String.ofList (List.replicate (width - digits.length) '0' ++ digits)

/-- The year of a moment. -/
def year (moment : Moment) : Int := (dateOfDays (moment.micros.fdiv dayMicros)).1

/-- The ISO text of a moment. -/
def text (moment : Moment) : String :=
  let (year, month, day) := dateOfDays (moment.micros.fdiv dayMicros)
  let ofDay := moment.micros.fmod dayMicros
  let seconds := ofDay.fdiv 1000000
  let fraction := ofDay.fmod 1000000
  padded 4 year ++ "-" ++ padded 2 month ++ "-" ++ padded 2 day ++ "T" ++
    padded 2 (seconds.fdiv 3600) ++ ":" ++ padded 2 ((seconds.fdiv 60).fmod 60) ++ ":" ++
    padded 2 (seconds.fmod 60) ++ (if fraction = 0 then "" else "." ++ padded 6 fraction)

/-- Whether a year has a leap day. -/
def isLeap (year : Nat) : Bool := year % 4 == 0 && (year % 100 != 0 || year % 400 == 0)

/-- The number of days of a month. -/
def monthLength (year month : Nat) : Nat :=
  match month with
  | 2 => if isLeap year then 29 else 28
  | 4 | 6 | 9 | 11 => 30
  | _ => 31

/-- The number that exactly these digits stand for. -/
def digits? (chars : List Char) : Option Nat :=
  if !chars.isEmpty && chars.all Char.isDigit then
    some (Text.ofDigits 10 (chars.map fun c => c.toNat - '0'.toNat))
  else none

/-- The moment a number of seconds after the start of 1970, rounded to microseconds with ties to
the even one.  The moment and the one a day before it have to lie in the years 1 to 9999. -/
def ofSeconds (seconds : Double) : Except Fault Moment :=
  if seconds.isNaN then .error (.reported .value "Invalid value NaN (not a number)")
  else
    let (num, den) := seconds.ratio
    let whole := num / den
    let bound := if seconds.isNegative then 2 ^ (63 : Nat) + 1 else 2 ^ (63 : Nat)
    if seconds.isInfinite || bound ≤ whole then
      .error (.reported .overflow "timestamp out of range for platform time_t")
    else
      let scaled := (Double.ofRatio false (num % den * 1000000) den).ratio
      let magnitude : Int := (whole * 1000000 + Double.roundQuotient scaled.1 scaled.2 : Nat)
      let moment : Moment := ⟨if seconds.isNegative then -magnitude else magnitude⟩
      if 2147485547 < moment.year ∨ moment.year < -2147481748 then
        .error (.reported .os "[Errno 75] Value too large for defined data type")
      else if moment.year < 1 ∨ 9999 < moment.year then
        .error (.reported .value s!"year {moment.year} is out of range")
      else if (Moment.mk (moment.micros - dayMicros)).year < 1 then
        .error (.reported .value "year 0 is out of range")
      else .ok moment

/-- The moment of a cursor in milliseconds. -/
def ofMillis (cursor : Value) : Except Fault Moment :=
  match cursor with
  | .float millis => ofSeconds (millis.divNat 1000)
  | .int millis =>
    let seconds := Double.ofRatio (millis < 0) millis.natAbs 1000
    if seconds.isInfinite then
      .error (.reported .overflow "integer division result too large for a float")
    else ofSeconds seconds
  | .bool flag => ofSeconds (Double.ofRatio false (if flag then 1 else 0) 1000)
  | other =>
    .error (.reported .type
      s!"unsupported operand type(s) for /: '{other.type.name}' and 'int'")

end Moment

end Workflow
