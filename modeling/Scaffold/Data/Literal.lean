/-
  Scaffold/Data/Literal.lean
  ==========================
  **Numbers as words.**

  What a word says that is a number in most formats: a whole number of a base with a sign, or a
  decimal number with a point before, between or after its digits and an exponent after them.
-/
import Scaffold.Data.Reader
import Scaffold.Data.Real

namespace Scaffold.Literal

open Scaffold

/-- A word without its sign, and whether it is negative. -/
def unsigned : List Char → Bool × List Char
  | '-' :: cs => (true, cs)
  | '+' :: cs => (false, cs)
  | cs => (false, cs)

/-- A number with a sign. -/
def signed (isNegative : Bool) (n : Nat) : Int := if isNegative then -n else n

/-- The whole number that digits of a base say, with a sign or without. -/
def whole? (base : Nat) (cs : List Char) : Option Int := do
  let (isNegative, ds) := unsigned cs
  guard (!ds.isEmpty && ds.all (isDigitOf base))
  pure (signed isNegative (ofDigits base ds))

/-- Whether a whole number fits 64 bits with a sign. -/
def isShort (n : Int) : Bool := -Int.pow 2 63 ≤ n && n < Int.pow 2 63

/-- The double that a decimal number says, with a sign or without. -/
def real? (cs : List Char) : Option Real := do
  let (isNegative, cs) := unsigned cs
  let front := cs.takeWhile fun c => c != 'e' && c != 'E'
  let power ← match cs.drop front.length with
    | [] => pure 0
    | _ :: cs => whole? 10 cs
  let whole := front.takeWhile (· != '.')
  let part := (front.drop whole.length).drop 1
  let ds := whole ++ part
  guard (!ds.isEmpty && ds.all Letter.isAsciiDigit)
  pure (Real.ofDecimal
    { isNegative, digits := ofDigits 10 ds, exponent := power - part.length })

end Scaffold.Literal
