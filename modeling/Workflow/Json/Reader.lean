import Workflow.Fault
import Workflow.Number.Literal

/-!
# Reading JSON

A reader for JSON texts, extended by `NaN`, `Infinity` and `-Infinity`.  Of a repeated field the
last value counts, at the first place.  A failure tells what was expected and where.

The reader works on the characters that are left, so a failure is located by what was left when it
arose; positions, lines and columns are computed from that once, at the end.
-/

namespace Workflow.Json

open Number (Double)

/-- What is wrong with a JSON text. -/
inductive Problem where
  | expectingValue
  | expectingName
  | expectingColon
  | expectingComma
  | unterminatedString
  | controlCharacter
  | badEscape
  | badUnicodeEscape
  | extraData
  | byteOrderMark
  /-- An integer with more digits than allowed. -/
  | integerTooLong (digits : Nat)
  /-- More arrays and objects inside one another than allowed. -/
  | tooDeep (container : ValueType)
deriving DecidableEq

/-- The wording of a problem. -/
def Problem.wording : Problem → String
  | .expectingValue => "Expecting value"
  | .expectingName => "Expecting property name enclosed in double quotes"
  | .expectingColon => "Expecting ':' delimiter"
  | .expectingComma => "Expecting ',' delimiter"
  | .unterminatedString => "Unterminated string starting at"
  | .controlCharacter => "Invalid control character at"
  | .badEscape => "Invalid \\escape"
  | .badUnicodeEscape => "Invalid \\uXXXX escape"
  | .extraData => "Extra data"
  | .byteOrderMark => "Unexpected UTF-8 BOM (decode using utf-8-sig)"
  | .integerTooLong digits => (Fault.integerTextTooLong digits).text
  | .tooDeep container =>
    let word := if container = .obj then "object" else "array"
    s!"maximum recursion depth exceeded while decoding a JSON {word} from a unicode string"

/-- A problem, with the characters left where it was met. -/
structure Failure where
  problem : Problem
  left : List Char
deriving DecidableEq

/-- Blanks between the parts of a JSON text. -/
def isSpace (c : Char) : Bool := c = ' ' || c = '\t' || c = '\n' || c = '\r'

/-- Skip blanks. -/
def skip (chars : List Char) : List Char := chars.dropWhile isSpace

/-- The value of a hexadecimal digit. -/
def hexDigit? (c : Char) : Option Nat :=
  if c.isDigit then some (c.toNat - '0'.toNat)
  else if 'a' ≤ c ∧ c ≤ 'f' then some (c.toNat - 'a'.toNat + 10)
  else if 'A' ≤ c ∧ c ≤ 'F' then some (c.toNat - 'A'.toNat + 10)
  else none

/-- The number that four hexadecimal digits stand for. -/
def hexUnit? (a b c d : Char) : Option Nat := do
  return Text.ofDigits 16 [← hexDigit? a, ← hexDigit? b, ← hexDigit? c, ← hexDigit? d]

/-- The character that a one-letter escape stands for. -/
def escaped? (c : Char) : Option Char :=
  if c = '"' ∨ c = '\\' ∨ c = '/' then some c
  else if c = 'b' then some '\x08'
  else if c = 'f' then some '\x0c'
  else if c = 'n' then some '\n'
  else if c = 'r' then some '\r'
  else if c = 't' then some '\t'
  else none

/-- The code units of a string up to its closing quote, and what follows it.  `start` is the text
from the opening quote on. -/
def readUnits (start : List Char) : List Char → Except Failure (List Nat × List Char)
  | [] => .error ⟨.unterminatedString, start⟩
  | '"' :: rest => .ok ([], rest)
  | '\\' :: [] => .error ⟨.unterminatedString, start⟩
  | '\\' :: 'u' :: a :: b :: c :: d :: rest =>
    match hexUnit? a b c d with
    | none => .error ⟨.badUnicodeEscape, 'u' :: a :: b :: c :: d :: rest⟩
    | some unit =>
      if rest.isEmpty then .error ⟨.badUnicodeEscape, 'u' :: a :: b :: c :: d :: rest⟩
      else (readUnits start rest).map fun (units, left) => (unit :: units, left)
  | '\\' :: e :: rest =>
    if e = 'u' then .error ⟨.badUnicodeEscape, e :: rest⟩
    else
      match escaped? e with
      | none => .error ⟨.badEscape, '\\' :: e :: rest⟩
      | some c => (readUnits start rest).map fun (units, left) => (c.toNat :: units, left)
  | c :: rest =>
    if c.toNat ≤ 0x1f then .error ⟨.controlCharacter, c :: rest⟩
    else (readUnits start rest).map fun (units, left) => (c.toNat :: units, left)

/-- The first unit of a pair that stands for one character. -/
def isHighSurrogate (unit : Nat) : Bool := 0xd800 ≤ unit && unit ≤ 0xdbff

/-- The second unit of a pair that stands for one character. -/
def isLowSurrogate (unit : Nat) : Bool := 0xdc00 ≤ unit && unit ≤ 0xdfff

/-- Join surrogate pairs.  A unit of a pair that stands alone is no character and becomes the
replacement character. -/
def joinUnits : List Nat → List Char
  | [] => []
  | high :: low :: rest =>
    if isHighSurrogate high && isLowSurrogate low then
      Char.ofNat (0x10000 + (high - 0xd800) * 0x400 + (low - 0xdc00)) :: joinUnits rest
    else if isHighSurrogate high || isLowSurrogate high then '\ufffd' :: joinUnits (low :: rest)
    else Char.ofNat high :: joinUnits (low :: rest)
  | [unit] =>
    [if isHighSurrogate unit || isLowSurrogate unit then '\ufffd' else Char.ofNat unit]

/-- A string after its opening quote. -/
def readString (rest : List Char) : Except Failure (String × List Char) :=
  (readUnits ('"' :: rest) rest).map fun (units, left) => (String.ofList (joinUnits units), left)

/-- The digits at the front. -/
def splitDigits (chars : List Char) : List Char × List Char := chars.span Char.isDigit

/-- The number that ASCII digits stand for. -/
def digitsValue (digits : List Char) : Nat :=
  Text.ofDigits 10 (digits.map fun c => c.toNat - '0'.toNat)

/-- A number as it is written. -/
structure Written where
  negative : Bool
  whole : List Char
  fraction : Option (List Char) := none
  exponent : Option Int := none

/-- A fraction, when a point and a digit follow. -/
def readFraction : List Char → Option (List Char) × List Char
  | '.' :: rest =>
    match splitDigits rest with
    | ([], _) => (none, '.' :: rest)
    | (digits, left) => (some digits, left)
  | rest => (none, rest)

/-- An exponent, when its letter is followed by an optional sign and a digit. -/
def readExponent : List Char → Option Int × List Char
  | [] => (none, [])
  | e :: rest =>
    if e = 'e' ∨ e = 'E' then
      let (negative, unsigned) := Number.Literal.sign rest
      match splitDigits unsigned with
      | ([], _) => (none, e :: rest)
      | (digits, left) =>
        let size : Int := digitsValue digits
        (some (if negative then -size else size), left)
    else (none, e :: rest)

/-- A number whose sign and whole part have been read, and what follows it. -/
def finishNumber (negative : Bool) (whole left : List Char) : Written × List Char :=
  let (fraction, afterFraction) := readFraction left
  let (exponent, rest) := readExponent afterFraction
  ({ negative, whole, fraction, exponent }, rest)

/-- A number and what follows it; a leading zero stands alone. -/
def readWritten (chars : List Char) : Except Failure (Written × List Char) :=
  let (negative, unsigned) := match chars with
    | '-' :: rest => (true, rest)
    | rest => (false, rest)
  match unsigned with
  | '0' :: rest => .ok (finishNumber negative ['0'] rest)
  | rest =>
    match splitDigits rest with
    | ([], _) => .error ⟨.expectingValue, chars⟩
    | (whole, left) => .ok (finishNumber negative whole left)

/-- The value of a number: an integer when it has neither fraction nor exponent. -/
def Written.value (number : Written) (left : List Char) : Except Failure Value :=
  if number.fraction.isNone && number.exponent.isNone then
    if Number.maxDigits < number.whole.length then
      .error ⟨.integerTooLong number.whole.length, left⟩
    else
      let size : Int := digitsValue number.whole
      .ok (.int (if number.negative then -size else size))
  else
    let decimals := number.fraction.getD []
    let power := number.exponent.getD 0 - decimals.length
    .ok (.float (Double.ofDecimal number.negative (digitsValue (number.whole ++ decimals)) power))

/-- What the numbers of a text become. -/
inductive Numbers where
  | values
  /-- Texts, as they are written. -/
  | texts
deriving DecidableEq

/-- A number. -/
def readNumber (numbers : Numbers) (chars : List Char) : Except Failure (Value × List Char) := do
  let (number, left) ← readWritten chars
  match numbers with
  | .values => return (← number.value left, left)
  | .texts => return (.str (String.ofList (chars.take (chars.length - left.length))), left)

mutual

/-- A value with at most `depth` arrays and objects inside one another.  `fuel` is never used up
when it is more than twice the number of characters. -/
def readValue (numbers : Numbers) (depth : Nat) :
    Nat → List Char → Except Failure (Value × List Char)
  | 0, chars => .error ⟨.expectingValue, chars⟩
  | fuel + 1, chars =>
    match chars with
    | '"' :: rest => (readString rest).map fun (text, left) => (.str text, left)
    | '{' :: rest =>
      if depth = 0 then .error ⟨.tooDeep .obj, chars⟩
      else
        match skip rest with
        | '}' :: left => .ok (.obj [], left)
        | left => readMembers numbers (depth - 1) fuel [] left
    | '[' :: rest =>
      if depth = 0 then .error ⟨.tooDeep .arr, chars⟩
      else
        match skip rest with
        | ']' :: left => .ok (.arr [], left)
        | left => readItems numbers (depth - 1) fuel [] left
    | 'n' :: 'u' :: 'l' :: 'l' :: rest => .ok (.null, rest)
    | 't' :: 'r' :: 'u' :: 'e' :: rest => .ok (.bool true, rest)
    | 'f' :: 'a' :: 'l' :: 's' :: 'e' :: rest => .ok (.bool false, rest)
    | 'N' :: 'a' :: 'N' :: rest => .ok (.float Double.nan, rest)
    | 'I' :: 'n' :: 'f' :: 'i' :: 'n' :: 'i' :: 't' :: 'y' :: rest =>
      .ok (.float (Double.infinity false), rest)
    | '-' :: 'I' :: 'n' :: 'f' :: 'i' :: 'n' :: 'i' :: 't' :: 'y' :: rest =>
      .ok (.float (Double.infinity true), rest)
    | _ => readNumber numbers chars

/-- The fields of an object from the next name on, after those already read. -/
def readMembers (numbers : Numbers) (depth : Nat) :
    Nat → Object → List Char → Except Failure (Value × List Char)
  | 0, _, chars => .error ⟨.expectingName, chars⟩
  | fuel + 1, fields, '"' :: rest => do
    let (name, afterName) ← readString rest
    match skip afterName with
    | ':' :: afterColon =>
      let (value, afterValue) ← readValue numbers depth fuel (skip afterColon)
      let fields := Object.set fields name value
      match skip afterValue with
      | '}' :: left => return (.obj fields, left)
      | ',' :: left => readMembers numbers depth fuel fields (skip left)
      | left => .error ⟨.expectingComma, left⟩
    | left => .error ⟨.expectingColon, left⟩
  | _ + 1, _, chars => .error ⟨.expectingName, chars⟩

/-- The items of an array from the next one on, after those already read, last first. -/
def readItems (numbers : Numbers) (depth : Nat) :
    Nat → List Value → List Char → Except Failure (Value × List Char)
  | 0, _, chars => .error ⟨.expectingValue, chars⟩
  | fuel + 1, items, chars => do
    let (item, afterItem) ← readValue numbers depth fuel chars
    match skip afterItem with
    | ']' :: left => return (.arr (item :: items).reverse, left)
    | ',' :: left => readItems numbers depth fuel (item :: items) (skip left)
    | left => .error ⟨.expectingComma, left⟩

end

/-- The most arrays and objects that are read inside one another.  As for the writer, the limit is
that of the stack, and the number is assumed of a reader that is called near the bottom of one with
a thousand calls. -/
def readingDepth : Nat := 975

/-- A whole JSON text, with at most `depth` arrays and objects inside one another. -/
def readChars (numbers : Numbers) (depth : Nat) (chars : List Char) : Except Failure Value :=
  if chars.head? = some '\ufeff' then .error ⟨.byteOrderMark, chars⟩
  else do
    let (value, left) ← readValue numbers depth (2 * chars.length + 2) (skip chars)
    if (skip left).isEmpty then return value else .error ⟨.extraData, skip left⟩

/-- Why a text is no JSON text, with the offset where that was noticed. -/
structure ReadError where
  problem : Problem
  offset : Nat
  /-- Line and column of the offset, both from one. -/
  place : Nat × Nat
deriving DecidableEq

/-- Locate a failure in the text that was read. -/
def ReadError.locate (chars : List Char) (failure : Failure) : ReadError :=
  let offset := chars.length - failure.left.length
  let before := chars.take offset
  let lineStart := before.reverse.takeWhile (· ≠ '\n')
  ⟨failure.problem, offset, (before.count '\n' + 1, lineStart.length + 1)⟩

/-- The text of a read error. -/
def ReadError.text (error : ReadError) : String :=
  match error.problem with
  | .integerTooLong _ | .tooDeep _ => error.problem.wording
  | problem =>
    let (line, column) := error.place
    s!"{problem.wording}: line {line} column {column} (char {error.offset})"

/-- The fault that a read error is. -/
def ReadError.fault (error : ReadError) : Fault :=
  match error.problem with
  | .integerTooLong digits => .integerTextTooLong digits
  | .tooDeep _ => .reported .recursion error.text
  | _ => .reported .malformedJson error.text

/-- The value that a JSON text denotes, with its numbers as values or as texts. -/
def readWith (numbers : Numbers) (text : String) (depth : Nat := readingDepth) :
    Except ReadError Value :=
  (readChars numbers depth text.toList).mapError (ReadError.locate text.toList)

/-- The value that a JSON text denotes. -/
def read (text : String) (depth : Nat := readingDepth) : Except ReadError Value :=
  readWith .values text depth

end Workflow.Json
