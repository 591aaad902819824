/-
  Scaffold/Data/Json/Number.lean
  ==============================
  **Numbers in JSON.**

  A whole number that fits 64 bits is kept exactly. Any other number is a significand times a power
  of ten: the digits count as long as the significand fits 64 bits, those after them only move the
  point. The value is made in double precision, rounded at every step, so that it can be next to the
  double that is nearest to the literal.
-/
import Scaffold.Data
import Scaffold.Data.Reader

namespace Scaffold.Json

open Scaffold Reader

/-! ### Significands -/

/-- A number without its sign, `significand * 10 ^ exponent`. -/
structure Scaled where
  significand : Nat
  exponent : Int := 0
  deriving DecidableEq, Repr

namespace Scaled

/-- Whether a significand takes one more digit. -/
def takes (significand digit : Nat) : Bool := significand * 10 + digit < Nat.pow 2 64

/-- The number after the digits of its whole part. From the first digit that does not fit, digits
only count. -/
def afterWhole : List Char → Scaled → Scaled
  | [], s => s
  | c :: cs, s =>
    if takes s.significand (digitValue c) then
      afterWhole cs { s with significand := s.significand * 10 + digitValue c }
    else { s with exponent := s.exponent + (c :: cs).length }

/-- The number after the digits behind the point, up to the first that does not fit. -/
def afterPoint : List Char → Scaled → Scaled
  | [], s => s
  | c :: cs, s =>
    if takes s.significand (digitValue c) then
      afterPoint cs
        { significand := s.significand * 10 + digitValue c, exponent := s.exponent - 1 }
    else s

end Scaled

/-! ### Values -/

/-- The greatest power of ten that doubles are multiplied with and divided by. -/
def maxPower : Nat := 308

/-- A double times a power of ten; nothing when no double is as great. Smaller powers than
`maxPower` allows take several divisions; what is not zero after one of them is after two. -/
def timesPower? (b : Binary) (exponent : Int) : Option Binary :=
  let ten (n : Nat) : Binary := Binary.ofNat (Nat.pow 10 n)
  if b.isZero then some b
  else if maxPower < exponent then none
  else if 0 ≤ exponent then some (b.times (ten exponent.toNat)) |>.filter (!·.overflows)
  else if -maxPower ≤ exponent then some (b.dividedBy (ten (-exponent).toNat))
  else if -2 * maxPower ≤ exponent then
    some ((b.dividedBy (ten maxPower)).dividedBy (ten (-exponent - maxPower).toNat))
  else some ⟨0, 0⟩

/-- The value of a number; infinite when no double is as great. -/
def Scaled.real (s : Scaled) (isNegative : Bool) : Real :=
  match timesPower? (Binary.ofNat s.significand) s.exponent with
  | some b => .finite isNegative b
  | none => .infinite isNegative

/-- The greatest exponent that is counted exactly. -/
def maxExponent : Nat := Nat.pow 2 31 - 1

/-- The value of a number with the exponent that is written after it. One that is not counted makes
the number infinite or zero. -/
def Scaled.raised (s : Scaled) (isNegative : Bool) (exponent : Int) : Real :=
  if exponent.natAbs ≤ maxExponent then
    { s with exponent := s.exponent + exponent }.real isNegative
  else if 0 < exponent && 0 < s.significand then .infinite isNegative
  else .finite isNegative ⟨0, 0⟩

/-! ### Reading -/

/-- One digit or more. -/
def digits : Reader (List Char) := do
  let ds ← takeWhile Letter.isAsciiDigit
  guard (!ds.isEmpty)
  pure ds

/-- The digits of a whole number, without a leading zero. -/
def wholeDigits : Reader (List Char) := do
  let ds ← digits
  guard (ds.head? != some '0' || ds.length == 1)
  pure ds

/-- The digits after a point, when there is one. -/
def fraction : Reader (List Char) := do
  if ← takes "." then digits else pure []

/-- The exponent, when there is one. -/
def exponent? : Reader (Option Int) := do
  match ← peek? with
  | some 'e' | some 'E' =>
    let _ ← next
    let isNegative ← takes "-"
    if !isNegative then let _ ← takes "+"
    let n : Int := ofDigits 10 (← digits)
    pure (some (if isNegative then -n else n))
  | _ => pure none

/-- Whether a whole number is kept as one: it fits 64 bits and is not the negative zero. -/
def isWhole (isNegative : Bool) (n : Nat) : Bool :=
  if isNegative then 0 < n && n ≤ Nat.pow 2 63 else n < Nat.pow 2 64

/-- A number. -/
def number : Reader Data := do
  let isNegative ← takes "-"
  let whole ← wholeDigits
  let part ← fraction
  let power ← exponent?
  let n := ofDigits 10 whole
  if part.isEmpty && power.isNone && isWhole isNegative n then
    pure (.integer (if isNegative then -n else n))
  else
    let scaled := Scaled.afterPoint part (Scaled.afterWhole whole ⟨0, 0⟩)
    pure (.real (scaled.raised isNegative (power.getD 0)))

end Scaffold.Json
