/-
  Scaffold/Text.lean
  ==================
  **Small operations on texts.**

  Trimming, ASCII case folding, joining and padding. Everything works on the characters of a text,
  so that `toList` turns each operation into one on lists.
-/
import Scaffold.Text.Letter

namespace Scaffold.Text

open Scaffold

/-- The characters without the blanks at both ends. -/
def trimChars (cs : List Char) : List Char :=
  ((cs.dropWhile Letter.isBlank).reverse.dropWhile Letter.isBlank).reverse

/-- The text without the blanks at both ends. -/
def trim (s : String) : String := String.ofList (trimChars s.toList)

/-- Whether nothing but blanks is in the text. -/
def isBlank (s : String) : Bool := (trim s).isEmpty

/-- The text when it holds more than blanks, trimmed. -/
def nonBlank? (s : String) : Option String :=
  if isBlank s then none else some (trim s)

/-- The text with its ASCII capitals made small. -/
def asciiLower (s : String) : String := String.ofList (s.toList.map Letter.asciiLower)

/-- The text with its first character made small: `OrderItem` becomes `orderItem`. -/
def lowerFirst (s : String) : String :=
  match s.toList with
  | [] => ""
  | c :: cs => String.ofList (Letter.toLower c ++ cs)

/-- The text with its first character made a capital. -/
def upperFirst (s : String) : String :=
  match s.toList with
  | [] => ""
  | c :: cs => String.ofList (Letter.toUpper c ++ cs)

/-- The texts one after the other, with `sep` between neighbours. -/
def joinWith (sep : String) : List String → String
  | [] => ""
  | [s] => s
  | s :: t :: rest => s ++ sep ++ joinWith sep (t :: rest)

/-- The text as lines, each line ended by a line feed. -/
def endLines (lines : List String) : String := String.join (lines.map (· ++ "\n"))

/-- The parts of a list between the members equal to `sep`; there is always at least one. -/
def splitChars (sep : Char) : List Char → List (List Char)
  | [] => [[]]
  | c :: cs =>
    match splitChars sep cs with
    | [] => [[c]]
    | part :: parts => if c == sep then [] :: part :: parts else (c :: part) :: parts

/-- The parts of a text between the occurrences of `sep`. -/
def splitOn (sep : Char) (s : String) : List String :=
  (splitChars sep s.toList).map String.ofList

/-- The text without a byte order mark in front. -/
def dropMark (s : String) : String :=
  match s.toList with
  | '\ufeff' :: cs => String.ofList cs
  | _ => s

/-- The text followed by as many spaces as it lacks to the given width. -/
def padRight (width : Nat) (s : String) : String :=
  s ++ String.ofList (List.replicate (width - s.toList.length) ' ')

/-- Whether the text ends with `ending`. -/
def endsWith (s ending : String) : Bool := ending.toList.reverse.isPrefixOf s.toList.reverse

end Scaffold.Text
