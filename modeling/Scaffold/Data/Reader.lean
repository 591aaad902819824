/-
  Scaffold/Data/Reader.lean
  =========================
  **Reading text from the left.**

  A reader takes characters off the front of a text and answers a value, or refuses the text.
  Readers are put together with `do`; what a text is refused for is not told.
-/
import Scaffold.Text

namespace Scaffold

/-- Takes characters off the front of a text and answers a value. -/
abbrev Reader := StateT (List Char) Option

namespace Reader

/-- The next character; refuses the end. -/
def next : Reader Char := fun
  | [] => none
  | c :: cs => some (c, cs)

/-- The next character, which stays. -/
def peek? : Reader (Option Char) := fun cs => some (cs.head?, cs)

/-- The character after the next, which stays. -/
def peekSecond? : Reader (Option Char) := fun cs => some ((cs.drop 1).head?, cs)

/-- Refuses everything but the given character. -/
def char (c : Char) : Reader Unit := fun
  | [] => none
  | d :: cs => if d == c then some ((), cs) else none

/-- Takes the given text when it is next; tells whether it was. -/
def takes (word : String) : Reader Bool := fun cs =>
  if word.toList.isPrefixOf cs then some (true, cs.drop word.toList.length) else some (false, cs)

/-- Takes the characters as long as the test holds. -/
def takeWhile (p : Char → Bool) : Reader (List Char) := fun cs =>
  some (cs.takeWhile p, cs.dropWhile p)

/-- Takes exactly so many characters, for each of which the test holds. -/
def takeExactly (p : Char → Bool) : Nat → Reader (List Char)
  | 0 => pure []
  | n + 1 => do
    let c ← next
    if p c then return c :: (← takeExactly p n) else failure

/-- The value of a whole text. -/
def readAll? (r : Reader α) (cs : List Char) : Option α :=
  match r cs with
  | some (a, []) => some a
  | _ => none

end Reader

/-! ### Digits -/

/-- The value of a digit of bases up to 16; zero for any other character. -/
def digitValue (c : Char) : Nat :=
  if '0' ≤ c && c ≤ '9' then c.toNat - 48
  else if 'a' ≤ c && c ≤ 'f' then c.toNat - 87
  else if 'A' ≤ c && c ≤ 'F' then c.toNat - 55
  else 0

/-- Whether a character is a digit of a base up to 16. -/
def isDigitOf (base : Nat) (c : Char) : Bool :=
  (Letter.isAsciiDigit c || ('a' ≤ c && c ≤ 'f') || ('A' ≤ c && c ≤ 'F')) && digitValue c < base

/-- The number that digits of a base stand for. -/
def ofDigits (base : Nat) (cs : List Char) : Nat := cs.foldl (fun n c => n * base + digitValue c) 0

/-- The character with the given number, when there is one. -/
def charOf? (n : Nat) : Option Char := if n.isValidChar then some (Char.ofNat n) else none

end Scaffold
