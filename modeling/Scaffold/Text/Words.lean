/-
  Scaffold/Text/Words.lean
  ========================
  **Words inside free-form names.**

  A name is cut into words at everything that is neither a letter nor a number, and inside such a
  piece at the borders that capitals show:

    * after a small letter that is followed by a capital (`orderItem`);
    * before a capital that follows a capital and is followed by a small letter (`HTTPServer`).

  Characters without case (digits, `中`) neither make nor hide a border: the last cased character
  counts. `upperCamel` writes the words one after the other, each with a capital first.
-/
import Scaffold.Text

namespace Scaffold.Words

open Scaffold

/-- The case of the last cased character of the word under way. -/
inductive Mode
  | boundary
  | small
  | capital
  deriving DecidableEq, Repr

/-- The mode after a character. -/
def Mode.after (m : Mode) (c : Char) : Mode :=
  if Letter.isLower c then .small else if Letter.isUpper c then .capital else m

/-- The words of a piece without separators. `word` is the word under way, last character first. -/
def cut (m : Mode) (word : List Char) : List Char → List (List Char)
  | [] => if word.isEmpty then [] else [word.reverse]
  | [c] => [(c :: word).reverse]
  | c :: d :: rest =>
    if m.after c == .small && Letter.isUpper d then
      (c :: word).reverse :: cut .boundary [] (d :: rest)
    else if m == .capital && Letter.isUpper c && Letter.isLower d then
      word.reverse :: cut .boundary [c] (d :: rest)
    else cut (m.after c) (c :: word) (d :: rest)

/-- The pieces between separators; a piece may be empty. -/
def pieces : List Char → List (List Char)
  | [] => [[]]
  | c :: cs =>
    match pieces cs with
    | [] => [[c]]
    | piece :: rest => if Letter.isWordChar c then (c :: piece) :: rest else [] :: piece :: rest

/-- The words of a text, in order. -/
def ofText (s : String) : List (List Char) :=
  (pieces s.toList).flatMap (cut .boundary [])

/-- The small form of the tail of a word: a sigma at the end of the word takes its final form. -/
def lowerTail : List Char → List Char
  | [] => []
  | [c] => if c == 'Σ' then ['ς'] else Letter.toLower c
  | c :: cs => Letter.toLower c ++ lowerTail cs

/-- A word with a capital first and small letters after it. -/
def capitalised : List Char → List Char
  | [] => []
  | c :: cs => Letter.toUpper c ++ lowerTail cs

/-- The words of a text written together, each capitalised: `order_item` becomes `OrderItem`. -/
def upperCamel (s : String) : String :=
  String.ofList ((ofText s).flatMap capitalised)

end Scaffold.Words
