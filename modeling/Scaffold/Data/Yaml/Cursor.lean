/-
  Scaffold/Data/Yaml/Cursor.lean
  ==============================
  **Where in a YAML text the reading is.**

  The structure of YAML hangs on columns, so a place in a text knows its column besides the
  characters that are left. Line breaks are single line feeds here: `Cursor.ofText` makes them so.
-/
import Scaffold.Data.Reader

namespace Scaffold.Yaml

open Scaffold

/-! ### Characters -/

/-- A space or a tab. -/
def isSpace (c : Char) : Bool := c == ' ' || c == '\t'

/-- A space, a tab or a line break. -/
def isGap (c : Char) : Bool := isSpace c || c == '\n'

/-- A bracket, a brace or the comma between items. -/
def isBracket (c : Char) : Bool :=
  c == ',' || c == '[' || c == ']' || c == '\x7b' || c == '\x7d'

/-- Whether a text is at its end or goes on with a space, a tab or a line break. -/
def atGap : List Char → Bool
  | [] => true
  | c :: _ => isGap c

/-- Whether the line is over. -/
def atLineEnd : List Char → Bool
  | [] => true
  | c :: _ => c == '\n'

/-- Whether a text begins with a mark between documents, made of three times the character. -/
def startsMark (c : Char) (cs : List Char) : Bool :=
  [c, c, c].isPrefixOf cs && atGap (cs.drop 3)

/-! ### Places -/

/-- A place in a text. -/
structure Cursor where
  rest : List Char
  line : Nat := 0
  column : Nat := 0
  /-- How many characters came before. -/
  index : Nat := 0
  /-- Whether only blanks came before on the line. -/
  isIndent : Bool := true
  deriving Inhabited

namespace Cursor

/-- The characters with every line break a single line feed. -/
def unifyBreaks : List Char → List Char
  | '\r' :: '\n' :: cs => '\n' :: unifyBreaks cs
  | c :: cs => (if c == '\r' then '\n' else c) :: unifyBreaks cs
  | [] => []

/-- The beginning of a text. A zero character ends it. -/
def ofText (s : String) : Cursor := { rest := unifyBreaks (s.toList.takeWhile (· != '\x00')) }

variable (c : Cursor)

/-- The place so many characters further on the line. -/
def after (n : Nat) : Cursor :=
  { c with
    rest := c.rest.drop n
    column := c.column + n
    index := c.index + n
    isIndent := c.isIndent && (c.rest.take n).all isSpace }

/-- The place at the beginning of the next line, over a line break. -/
def nextLine : Cursor :=
  { rest := c.rest.drop 1, line := c.line + 1, column := 0, index := c.index + 1, isIndent := true }

/-- The place after the characters for which a test holds, all of them on the line. -/
def afterWhile (p : Char → Bool) : List Char × Cursor :=
  let cs := c.rest.takeWhile fun d => p d && d != '\n'
  (cs, c.after cs.length)

/-- The place at the end of the line. -/
def atLineBreak : Cursor := (c.afterWhile fun _ => true).2

/-- Whether the place is at a mark between documents. -/
def atMark : Bool := c.column = 0 && (startsMark '-' c.rest || startsMark '.' c.rest)

/-- Whether the place is left of an indentation. -/
def isLeftOf (indent : Int) : Bool := (c.column : Int) < indent

/-! ### Blanks and comments -/

/-- The blanks up to the next character on the line. -/
structure Blanks where
  hasSpace : Bool
  hasTab : Bool

/-- The place after blanks and a comment, on the line. A comment has a blank before it. -/
def afterBlanks (allowsTabs : Bool) : Option (Blanks × Cursor) :=
  let (cs, c) := c.afterWhile fun d => d == ' ' || (allowsTabs && d == '\t')
  let blanks : Blanks := ⟨cs.contains ' ', cs.contains '\t'⟩
  match c.rest with
  | '#' :: _ => if cs.isEmpty then none else some (blanks, c.atLineBreak)
  | _ => some (blanks, c)

end Cursor

end Scaffold.Yaml
