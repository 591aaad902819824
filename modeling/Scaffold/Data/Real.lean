/-
  Scaffold/Data/Real.lean
  =======================
  **Decimal numbers, their double precision, and the fewest digits that tell it.**

  A `Decimal` is what a literal says, exactly. `Binary` is the double nearest to it, ties to even,
  as `mantissa * 2 ^ exponent` with a mantissa below `2 ^ 53`. `Binary.shortest` goes back: of all
  decimals that read as the double it answers one with the fewest digits, the nearest of those and
  the greater of two that are equally near.
-/
import Scaffold.Text

namespace Scaffold

/-- The number `digits * 10 ^ exponent`, with a sign. -/
structure Decimal where
  isNegative : Bool := false
  digits : Nat
  exponent : Int := 0
  deriving DecidableEq, Repr

/-- The number `mantissa * 2 ^ exponent`. -/
structure Binary where
  mantissa : Nat
  exponent : Int := 0
  deriving DecidableEq, Repr

/-! ### From decimal to binary -/

/-- A quotient rounded to the nearest whole number, a half to the even one. -/
def roundQuotient (num den : Nat) : Nat :=
  let whole := num / den
  match compare (2 * (num % den)) den with
  | .lt => whole
  | .gt => whole + 1
  | .eq => whole + whole % 2

/-- A fraction multiplied by a power of `base`. -/
def scale (base : Nat) (exponent : Int) (num den : Nat) : Nat × Nat :=
  if 0 ≤ exponent then (num * Nat.pow base exponent.toNat, den)
  else (num, den * Nat.pow base (-exponent).toNat)

/-- The greatest `t` with `2 ^ t` at most the fraction, which is positive. -/
def floorLog (num den : Nat) : Int :=
  let t : Int := num.log2 - den.log2
  let (n, d) := scale 2 (-t) num den
  if n < d then t - 1 else t

namespace Binary

/-- The double nearest to a fraction, as if exponents had no upper end. -/
def ofFraction (num den : Nat) : Binary :=
  let exponent := max (floorLog num den - 52) (-1074)
  let (n, d) := scale 2 (-exponent) num den
  let mantissa := roundQuotient n d
  if mantissa = Nat.pow 2 53 then ⟨Nat.pow 2 52, exponent + 1⟩ else ⟨mantissa, exponent⟩

/-- The double nearest to a whole number. -/
def ofNat (n : Nat) : Binary := ofFraction n 1

/-- Whether no double is as great. -/
def overflows (b : Binary) : Bool := 971 < b.exponent

/-- Whether the number is zero. -/
def isZero (b : Binary) : Bool := b.mantissa = 0

/-- The product of two doubles, rounded. -/
def times (a b : Binary) : Binary :=
  let (num, den) := scale 2 (a.exponent + b.exponent) (a.mantissa * b.mantissa) 1
  ofFraction num den

/-- The quotient of two doubles, rounded. -/
def dividedBy (a b : Binary) : Binary :=
  let (num, den) := scale 2 (a.exponent - b.exponent) a.mantissa b.mantissa
  ofFraction num den

end Binary

namespace Decimal

/-- Whether the decimal exponent alone puts a number beyond every double. -/
def isHuge (d : Decimal) : Bool := 0 < d.digits && 400 < d.exponent

/-- Whether the decimal exponent alone puts a number below half of the least double. -/
def isTiny (d : Decimal) : Bool :=
  d.digits = 0 || d.exponent + (d.digits.log2 : Int) < -1200

/-- The double nearest to the number without its sign; nothing when no double is as great. -/
def binary? (d : Decimal) : Option Binary :=
  if d.isTiny then some ⟨0, 0⟩
  else if d.isHuge then none
  else
    let (num, den) := scale 10 d.exponent d.digits 1
    (some (Binary.ofFraction num den)).filter (!·.overflows)

end Decimal

/-! ### From binary to decimal -/

namespace Binary

/-- The ends of the interval that reads as the double, and the double itself between them, all three
over one denominator. The lower neighbour of a power of two is only half as far away. -/
def interval (b : Binary) : (Nat × Nat × Nat) × Nat :=
  let isPower := b.mantissa = Nat.pow 2 52 && -1074 < b.exponent
  let low := if isPower then 4 * b.mantissa - 1 else 4 * b.mantissa - 2
  let (num, den) := scale 2 (b.exponent - 2) 1 1
  ((low * num, 4 * b.mantissa * num, (4 * b.mantissa + 2) * num), den)

/-- The multiple of `10 ^ k` that reads as the double and is nearest to it. -/
def onGrid? (b : Binary) (k : Int) : Option Nat :=
  let ((low, mid, high), den) := b.interval
  let (unit, den') := scale 10 k den 1
  let (low, mid, high) := (low * den', mid * den', high * den')
  let inside (n : Nat) : Bool :=
    if b.mantissa % 2 = 0 then low ≤ n * unit && n * unit ≤ high
    else low < n * unit && n * unit < high
  let below := mid / unit
  match inside below, inside (below + 1) with
  | true, true => some (if 2 * mid < (2 * below + 1) * unit then below else below + 1)
  | true, false => some below
  | false, true => some (below + 1)
  | false, false => none

/-- The first grid of the `steps` below `k` that has a decimal for the double. -/
def onGrids (b : Binary) (k : Int) : Nat → Decimal
  | 0 => { digits := (b.onGrid? k).getD 0, exponent := k }
  | steps + 1 =>
    match b.onGrid? k with
    | some digits => { digits, exponent := k }
    | none => b.onGrids (k - 1) steps

/-- The decimal with the fewest digits that reads as the double. -/
def shortest (b : Binary) : Decimal :=
  let top : Int := (((b.mantissa.log2 : Int) + b.exponent + 1) * 30103) / 100000 + 1
  b.onGrids top 20

end Binary

namespace Decimal

/-- The digits of a number that are at least `width` many, filled up with zeros in front. -/
def paddedDigits (width n : Nat) : List Char :=
  let cs := (toString n).toList
  List.replicate (width - cs.length) '0' ++ cs

/-- The number with all its digits around the point, without an exponent. -/
def positional (d : Decimal) : String :=
  let digits :=
    if 0 ≤ d.exponent then (toString d.digits).toList ++ List.replicate d.exponent.toNat '0'
    else
      let places := (-d.exponent).toNat
      let cs := paddedDigits (places + 1) d.digits
      cs.take (cs.length - places) ++ '.' :: cs.drop (cs.length - places)
  String.ofList ((if d.isNegative then ['-'] else []) ++ digits)

end Decimal

/-- A number of double precision, or what lies beyond all numbers. -/
inductive Real
  | finite (isNegative : Bool) (magnitude : Binary)
  | infinite (isNegative : Bool)
  | undefined
  deriving DecidableEq, Repr

namespace Real

/-- The double nearest to a decimal; infinite when no double is as great. -/
def ofDecimal (d : Decimal) : Real :=
  match d.binary? with
  | some b => finite d.isNegative b
  | none => infinite d.isNegative

/-- Whether the value is a number. -/
def isFinite : Real → Bool
  | finite _ _ => true
  | _ => false

/-- Whether the value is zero, whatever its sign. -/
def isZero : Real → Bool
  | finite _ b => b.isZero
  | _ => false

/-- The number as it is shown: the fewest digits, without an exponent. -/
def shown : Real → String
  | finite isNegative b =>
    if b.isZero then Decimal.positional { isNegative, digits := 0 }
    else Decimal.positional { b.shortest with isNegative }
  | infinite true => "-inf"
  | infinite false => "inf"
  | undefined => "NaN"

end Real

end Scaffold
