/-
  Scaffold/Data/Toml/Scalar.lean
  ==============================
  **Truth values, numbers and moments in TOML.**

  All of them are words: runs of letters, digits and a few signs. A word that is a date takes a time
  after one space along. Whole numbers fit 128 bits, and no number is beyond the greatest double.
-/
import Scaffold.Data
import Scaffold.Data.Literal
import Scaffold.Data.Toml.Text

namespace Scaffold.Toml

open Scaffold Reader

/-! ### Numbers -/

/-- The digits of a number without the underscores, each of which stands between two digits. -/
def grouped? (base : Nat) : List Char → Option (List Char)
  | [] => none
  | [c] => if isDigitOf base c then some [c] else none
  | c :: '_' :: rest => if isDigitOf base c then (grouped? base rest).map (c :: ·) else none
  | c :: rest => if isDigitOf base c then (grouped? base rest).map (c :: ·) else none

/-- The digits of a decimal whole number: no zero stands in front of another digit. -/
def decimal? (cs : List Char) : Option (List Char) := do
  let ds ← grouped? 10 cs
  guard (ds.head? != some '0' || ds.length == 1)
  pure ds

/-- The digits and the base of a whole number. Only decimal ones have a sign. -/
def wholeDigits? : List Char → Option (Nat × List Char)
  | '0' :: 'x' :: cs => (grouped? 16 cs).map (16, ·)
  | '0' :: 'o' :: cs => (grouped? 8 cs).map (8, ·)
  | '0' :: 'b' :: cs => (grouped? 2 cs).map (2, ·)
  | cs => (decimal? (Literal.unsigned cs).2).map (10, ·)

/-- The whole number that a word says. -/
def whole? (cs : List Char) : Option Data := do
  let (base, ds) ← wholeDigits? cs
  let n := ofDigits base ds
  if (Literal.unsigned cs).1 then
    guard (n ≤ Nat.pow 2 127)
    pure (.integer (-n))
  else
    guard (n < Nat.pow 2 128)
    pure (.integer n)

/-- The exponent after an `e`. -/
def power? (cs : List Char) : Option Int := do
  let (isNegative, cs) := Literal.unsigned cs
  let n : Int := ofDigits 10 (← grouped? 10 cs)
  pure (if isNegative then -n else n)

/-- The number with a point or an exponent that a word says. -/
def real? (cs : List Char) : Option Data := do
  let (isNegative, cs) := Literal.unsigned cs
  let front := cs.takeWhile fun c => c != 'e' && c != 'E'
  let power ← match cs.drop front.length with
    | [] => pure none
    | _ :: cs => some <$> power? cs
  let whole ← decimal? (front.takeWhile (· != '.'))
  let part ← match front.dropWhile (· != '.') with
    | [] => pure []
    | _ :: cs => grouped? 10 cs
  guard (power.isSome || !part.isEmpty)
  let value := Real.ofDecimal
    { isNegative, digits := ofDigits 10 (whole ++ part), exponent := power.getD 0 - part.length }
  guard value.isFinite
  pure (.real value)

/-- The truth value or the special number that a word says. -/
def constant? (word : String) : Option Data :=
  [("true", .bool true), ("false", .bool false), ("inf", .real (.infinite false)),
   ("+inf", .real (.infinite false)), ("-inf", .real (.infinite true)), ("nan", .real .undefined),
   ("+nan", .real .undefined), ("-nan", .real .undefined)].lookup word

/-! ### Moments -/

/-- A number with exactly so many digits, within bounds. -/
def fixed (width low high : Nat) : Reader (List Char) := do
  let ds ← takeExactly Letter.isAsciiDigit width
  let n := ofDigits 10 ds
  guard (low ≤ n && n ≤ high)
  pure ds

/-- How many days a month has. -/
def daysIn (year month : Nat) : Nat :=
  if month = 2 then
    if year % 4 = 0 && (year % 100 != 0 || year % 400 = 0) then 29 else 28
  else if month = 4 || month = 6 || month = 9 || month = 11 then 30 else 31

/-- A date, as `2024-02-29`. -/
def date : Reader (List Char) := do
  let year ← fixed 4 0 9999
  char '-'
  let month ← fixed 2 1 12
  char '-'
  let day ← fixed 2 1 (daysIn (ofDigits 10 year) (ofDigits 10 month))
  pure (year ++ '-' :: month ++ '-' :: day)

/-- A part of a second to nine places, without the zeros at its end, but with one digit at least. -/
def shownPart (ds : List Char) : List Char :=
  match ((ds.take 9).reverse.dropWhile (· == '0')).reverse with
  | [] => ['.', '0']
  | ds => '.' :: ds

/-- The seconds of a time, which may be left out, with their part. -/
def seconds : Reader (List Char) := do
  if ← takes ":" then
    let second ← fixed 2 0 60
    let part ← if ← takes "." then do
        let ds ← takeWhile Letter.isAsciiDigit
        guard (!ds.isEmpty)
        pure (shownPart ds)
      else pure []
    pure (':' :: second ++ part)
  else pure []

/-- A time of day, as `07:32:00.5`. -/
def time : Reader (List Char) := do
  let hour ← fixed 2 0 23
  char ':'
  let minute ← fixed 2 0 59
  pure (hour ++ ':' :: minute ++ (← seconds))

/-- The distance from universal time, when it is given. No distance at all is shown as positive. -/
def offset : Reader (List Char) := do
  match ← peek? with
  | some 'Z' | some 'z' =>
    let _ ← next
    pure ['Z']
  | some '+' | some '-' =>
    let sign ← next
    let hour ← fixed 2 0 23
    char ':'
    let minute ← fixed 2 0 59
    let isNone := ofDigits 10 hour = 0 && ofDigits 10 minute = 0
    pure ((if isNone then '+' else sign) :: hour ++ ':' :: minute)
  | _ => pure []

/-- A date with a time. -/
def dateTime : Reader (List Char) := do
  let day ← date
  let separator ← next
  guard (separator == 'T' || separator == 't' || separator == ' ')
  let clock ← time
  pure (day ++ 'T' :: clock ++ (← offset))

/-- The moment that a word says, as it is shown. -/
def moment? (cs : List Char) : Option Data :=
  (((readAll? dateTime cs).or (readAll? date cs)).or (readAll? time cs)).map
    fun shown => .moment (String.ofList shown)

/-! ### Words -/

/-- Whether a character may stand in a word. -/
def isWordPart (c : Char) : Bool :=
  Letter.isAsciiLetter c || Letter.isAsciiDigit c || c == '_' || c == '+' || c == '-' || c == '.' ||
    c == ':'

/-- A word; a date takes the time after one space along. -/
def word : Reader (List Char) := do
  let cs ← takeWhile isWordPart
  let second ← peekSecond?
  if (readAll? date cs).isSome && (← peek?) == some ' ' && second.any Letter.isAsciiDigit then
    char ' '
    pure (cs ++ ' ' :: (← takeWhile isWordPart))
  else pure cs

/-- A truth value, a number or a moment. -/
def scalar : Reader Data := do
  let cs ← word
  match (((constant? (String.ofList cs)).or (whole? cs)).or (real? cs)).or (moment? cs) with
  | some d => pure d
  | none => failure

end Scaffold.Toml
