/-
  Scaffold/Source/Block.lean
  ==========================
  **Lines of generated code.**

  Code is built as a list of lines, each without its line end. A block puts its body between braces
  on lines of their own and moves it one level to the right, so that indentation and braces are
  never written by hand.
-/
import Scaffold.Text

namespace Scaffold.Source

open Scaffold

/-- Lines moved one level, four spaces, to the right. A line without text stays without. -/
def indent (lines : List String) : List String :=
  lines.map fun line => if line.isEmpty then line else "    " ++ line

/-- A header, and its body between braces. -/
def block (header body : List String) : List String :=
  header ++ ["\x7b"] ++ indent body ++ ["\x7d"]

/-- Groups of lines with a blank line between neighbours. -/
def spaced : List (List String) → List String
  | [] => []
  | [group] => group
  | group :: next :: rest => group ++ [""] ++ spaced (next :: rest)

/-- Lines as one text, without a line end after the last. -/
def text (lines : List String) : String := Text.joinWith "\n" lines

/-- The text of lines as members of a class, one level in. -/
def members (lines : List String) : String := text (indent lines)

end Scaffold.Source
