/-
  Scaffold/Data/Ini.lean
  ======================
  **Reading INI.**

  A document is a sequence of assignments, section heads and comments:

      name = value
      [section]
      name: "a value "
      ; a comment begins its line, and so does # one

  A name goes up to the first `=` or `:` and a value to the end of its line; blanks around either
  do not count, parts of a value between quotes are kept as they are. A backslash escapes everywhere
  but in comments. Every value is a text. Names before the first section belong to the document.
-/
import Scaffold.Data
import Scaffold.Data.Reader

namespace Scaffold.Ini

open Scaffold

/-! ### Texts -/

/-- The character that a backslash and another one stand for. -/
def escaped : Char → Char
  | '0' => '\x00'
  | 'a' => '\x07'
  | 'b' => '\x08'
  | 't' => '\t'
  | 'r' => '\r'
  | 'n' => '\n'
  | c => c

/-- The character whose number the digits give; a sign may stand for the first of them. -/
def numbered? (digits : List Char) : Option Char :=
  let digits := if digits.head? == some '+' then digits.drop 1 else digits
  if digits.all (isDigitOf 16) then charOf? (ofDigits 16 digits) else none

/-- The characters up to the first that the test picks out, which stays. `mayEnd` tells that the
end of the text will do as well. -/
def upTo (stops : Char → Bool) (mayEnd : Bool) : List Char → Option (List Char × List Char)
  | [] => if mayEnd then some ([], []) else none
  | '\\' :: 'x' :: a :: b :: c :: d :: rest => do
    let (cs, rest) ← upTo stops mayEnd rest
    pure ((← numbered? [a, b, c, d]) :: cs, rest)
  | '\\' :: '\n' :: rest => upTo stops mayEnd rest
  | '\\' :: e :: rest => do
    guard (e != 'x')
    let (cs, rest) ← upTo stops mayEnd rest
    pure (escaped e :: cs, rest)
  | c :: rest =>
    if stops c then some ([], c :: rest)
    else if c == '\\' then none
    else (upTo stops mayEnd rest).map fun (cs, rest) => (c :: cs, rest)

/-- Whether a character ends a line. -/
def isLineEnd (c : Char) : Bool := c == '\n' || c == '\r'

/-- The characters without the blanks at the end. -/
def trimEnd (cs : List Char) : List Char := (cs.reverse.dropWhile Letter.isBlank).reverse

/-- The rest of a value after a part between quotes, and what comes after it; `fuel` bounds the
parts. -/
def valueRest : Nat → List Char → Option (List Char × List Char)
  | 0, _ => none
  | _ + 1, [] => some ([], [])
  | fuel + 1, c :: rest =>
    if c == '"' || c == '\'' then do
      let (part, rest) ← upTo (· == c) false rest
      let (more, rest) ← valueRest fuel (rest.drop 1)
      pure (part ++ more, rest)
    else do
      let (part, rest) ← upTo isLineEnd true (c :: rest)
      pure (trimEnd part, rest)

/-- A value, and what comes after it. -/
def value (cs : List Char) : Option (List Char × List Char) :=
  let cs := cs.dropWhile fun c => Letter.isBlank c && !isLineEnd c
  match cs with
  | '"' :: _ => valueRest (cs.length + 1) cs
  | '\'' :: _ => valueRest (cs.length + 1) cs
  | _ => (upTo isLineEnd true cs).map fun (part, rest) => (Text.trimChars part, rest)

/-! ### Documents -/

/-- A part of a document. -/
inductive Statement
  | head (title : String)
  | assign (name value : String)

/-- The statements of a text; `isFresh` tells whether it begins a line, and `fuel` bounds them. -/
def statements : Nat → Bool → List Char → Option (List Statement)
  | 0, _, _ => none
  | _ + 1, _, [] => some []
  | fuel + 1, isFresh, c :: rest =>
    if Letter.isBlank c then statements fuel (c == '\n') rest
    else if c == ';' || c == '#' then
      if isFresh then statements fuel true ((rest.dropWhile (· != '\n')).drop 1) else none
    else if c == '[' then do
      let (name, rest) ← upTo (· == ']') false rest
      let more ← statements fuel false (rest.drop 1)
      pure (.head (String.ofList (Text.trimChars name)) :: more)
    else do
      let (name, rest) ← upTo (fun c => c == '=' || c == ':') false (c :: rest)
      let name := Text.trimChars name
      guard (!name.isEmpty)
      let (value, rest) ← value (rest.drop 1)
      let more ← statements fuel false rest
      pure (.assign (String.ofList name) (String.ofList value) :: more)

/-- The entries of a document: those of its own, up to the first head, and its sections. -/
def fields : List Statement → List (String × Data) × List (String × Data)
  | [] => ([], [])
  | .assign name value :: rest =>
    let (own, sections) := fields rest
    ((name, .text value) :: own, sections)
  | .head name :: rest =>
    let (own, sections) := fields rest
    ([], (name, .table own) :: sections)

/-- The table that a whole text says. A name may occur in it more than once. -/
def read? (s : String) : Option Data := do
  let cs := s.toList
  let (own, sections) := fields (← statements (cs.length + 1) true cs)
  pure (.table (own ++ sections))

end Scaffold.Ini
