/-
  Scaffold/Text/Letter.lean
  =========================
  **Letter classes and case of single characters.**

  The classes and mappings are those of the Unicode standard. ASCII is decided by range tests, so a
  fact about ASCII names never has to look into the tables; every other code point is looked up.

  A case mapping may answer several characters (`ß` has the capital form `SS`), so both mappings
  answer a list.
-/
import Scaffold.Text.Letter.Alphabetic
import Scaffold.Text.Letter.Blank
import Scaffold.Text.Letter.CaseMap
import Scaffold.Text.Letter.Lower
import Scaffold.Text.Letter.Numeric
import Scaffold.Text.Letter.Upper

namespace Scaffold.Letter

/-! ### ASCII -/

/-- Whether a character is in the ASCII range. -/
def isAscii (c : Char) : Bool := c.toNat < 128

/-- An ASCII capital. -/
def isAsciiUpper (c : Char) : Bool := 'A' ≤ c && c ≤ 'Z'

/-- An ASCII small letter. -/
def isAsciiLower (c : Char) : Bool := 'a' ≤ c && c ≤ 'z'

/-- An ASCII letter. -/
def isAsciiLetter (c : Char) : Bool := isAsciiUpper c || isAsciiLower c

/-- An ASCII digit. -/
def isAsciiDigit (c : Char) : Bool := '0' ≤ c && c ≤ '9'

/-- The small letter of an ASCII capital; any other character stays. -/
def asciiLower (c : Char) : Char :=
  if isAsciiUpper c then Char.ofNat (c.toNat + 32) else c

/-- The capital of an ASCII small letter; any other character stays. -/
def asciiUpper (c : Char) : Char :=
  if isAsciiLower c then Char.ofNat (c.toNat - 32) else c

/-! ### Classes -/

/-- Whether a character is an uppercase letter of any script. -/
def isUpper (c : Char) : Bool :=
  if isAscii c then isAsciiUpper c else onRuns c.toNat upperRuns

/-- Whether a character is a lowercase letter of any script. -/
def isLower (c : Char) : Bool :=
  if isAscii c then isAsciiLower c else onRuns c.toNat lowerRuns

/-- Whether a character is a letter of any script. -/
def isAlphabetic (c : Char) : Bool :=
  if isAscii c then isAsciiLetter c else onRuns c.toNat alphabeticRuns

/-- Whether a character is a digit or another number of any script. -/
def isNumeric (c : Char) : Bool :=
  if isAscii c then isAsciiDigit c else onRuns c.toNat numericRuns

/-- Whether a character may stand inside a word: a letter or a number. -/
def isWordChar (c : Char) : Bool := isAlphabetic c || isNumeric c

/-- Whether a character is blank: the space, the ASCII controls from tab to carriage return, and the
blanks of the standard. -/
def isBlank (c : Char) : Bool :=
  if isAscii c then c == ' ' || (9 ≤ c.toNat && c.toNat ≤ 13) else onRuns c.toNat blankRuns

/-! ### Case -/

/-- What a code point outside ASCII maps to: its expansion, else its shift, else itself. -/
def mapped (n : Nat) (shifts : List Shift) (expansions : List (Nat × List Nat)) : List Char :=
  match expansions.lookup n with
  | some ns => ns.map Char.ofNat
  | none => [Char.ofNat ((shifted? n shifts).getD n)]

/-- The small form of a character. -/
def toLower (c : Char) : List Char :=
  if isAscii c then [asciiLower c] else mapped c.toNat lowerShifts lowerExpansions

/-- The capital form of a character. -/
def toUpper (c : Char) : List Char :=
  if isAscii c then [asciiUpper c] else mapped c.toNat upperShifts upperExpansions

end Scaffold.Letter
