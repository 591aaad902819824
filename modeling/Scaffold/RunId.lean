/-
  Scaffold/RunId.lean
  ===================
  **Names of runs.**

  A run is named by a universally unique identifier of the random kind: sixteen bytes written in
  hexadecimal, of which six bits say the kind and all others are random.
-/
import Scaffold.Text

namespace Scaffold.RunId

open Scaffold

/-- How many random bytes a name needs. -/
def size : Nat := 16

/-- The byte at a position with the bits that say the kind. -/
def marked (position : Nat) (byte : UInt8) : UInt8 :=
  if position == 6 then (byte &&& 0x0f) ||| 0x40
  else if position == 8 then (byte &&& 0x3f) ||| 0x80
  else byte

/-- A byte as two hexadecimal digits. -/
def hexadecimal (byte : UInt8) : List Char :=
  [Nat.digitChar (byte.toNat / 16), Nat.digitChar (byte.toNat % 16)]

/-- The name that random bytes make. -/
def ofBytes (bytes : List UInt8) : String :=
  let digits := (bytes.mapIdx marked).flatMap hexadecimal
  let part (start length : Nat) : String := String.ofList ((digits.drop start).take length)
  Text.joinWith "-" [part 0 8, part 8 4, part 12 4, part 16 4, part 20 12]

end Scaffold.RunId
