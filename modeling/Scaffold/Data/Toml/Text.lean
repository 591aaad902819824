/-
  Scaffold/Data/Toml/Text.lean
  ============================
  **Texts in TOML.**

  A text stands between `"` with escapes or between `'` without, each on one line or, with the quote
  written three times, over several. A text over several lines does not begin with the line break
  right after the opening quotes, may hold up to two quotes before the closing ones, and, when it
  has escapes, goes over a backslash at the end of a line together with all blanks after it.
-/
import Scaffold.Data.Reader

namespace Scaffold.Toml

open Scaffold Reader

/-- A space or a tab. -/
def isSpace (c : Char) : Bool := c == ' ' || c == '\t'

/-- Whether a character may stand in a text or in a comment: no control but the tab. -/
def isPlain (c : Char) : Bool := c == '\t' || (32 ≤ c.toNat && c.toNat != 127)

/-- The character that a backslash and a letter stand for. -/
def escape? : Char → Option Char
  | 'b' => some '\x08'
  | 't' => some '\t'
  | 'n' => some '\n'
  | 'f' => some '\x0c'
  | 'r' => some '\r'
  | 'e' => some '\x1b'
  | '"' => some '"'
  | '\\' => some '\\'
  | _ => none

/-- The character whose number the digits give. -/
def numbered? (digits : List Char) : Option Char :=
  if digits.all (isDigitOf 16) then charOf? (ofDigits 16 digits) else none

/-- A text after its opening `"`: its characters, and the rest after the closing one. -/
def basic : List Char → Option (List Char × List Char)
  | [] => none
  | '"' :: rest => some ([], rest)
  | '\\' :: 'x' :: a :: b :: rest => do
    let c ← numbered? [a, b]
    let (cs, rest) ← basic rest
    pure (c :: cs, rest)
  | '\\' :: 'u' :: a :: b :: c :: d :: rest => do
    let c ← numbered? [a, b, c, d]
    let (cs, rest) ← basic rest
    pure (c :: cs, rest)
  | '\\' :: 'U' :: a :: b :: c :: d :: e :: f :: g :: h :: rest => do
    let c ← numbered? [a, b, c, d, e, f, g, h]
    let (cs, rest) ← basic rest
    pure (c :: cs, rest)
  | '\\' :: e :: rest => do
    let c ← escape? e
    let (cs, rest) ← basic rest
    pure (c :: cs, rest)
  | c :: rest => do
    guard (isPlain c)
    let (cs, rest) ← basic rest
    pure (c :: cs, rest)

/-- A text after its opening `'`. -/
def literal : List Char → Option (List Char × List Char)
  | [] => none
  | '\'' :: rest => some ([], rest)
  | c :: rest => do
    guard (isPlain c)
    let (cs, rest) ← literal rest
    pure (c :: cs, rest)

/-- The text without a line break in front. -/
def dropLineBreak : List Char → List Char
  | '\n' :: rest => rest
  | '\r' :: '\n' :: rest => rest
  | cs => cs

/-- Whether only spaces are left on the line. -/
def atLineEnd (cs : List Char) : Bool :=
  match cs.dropWhile isSpace with
  | '\n' :: _ => true
  | '\r' :: '\n' :: _ => true
  | _ => false

/-- What follows three closing quotes: the quotes that belong to the text, and the rest. -/
def closing (quote : Char) : List Char → List Char × List Char
  | a :: b :: rest =>
    if a != quote then ([], a :: b :: rest)
    else if b != quote then ([a], b :: rest)
    else ([a, b], rest)
  | [a] => if a == quote then ([a], []) else ([], [a])
  | [] => ([], [])

/-- A text over several lines after its opening quotes. `skipping` tells that a backslash at the end
of a line takes the blanks that come next. -/
def basicLines (skipping : Bool) : List Char → Option (List Char × List Char)
  | [] => none
  | '"' :: '"' :: '"' :: rest => some (closing '"' rest)
  | '\\' :: 'x' :: a :: b :: rest => do
    let c ← numbered? [a, b]
    let (cs, rest) ← basicLines false rest
    pure (c :: cs, rest)
  | '\\' :: 'u' :: a :: b :: c :: d :: rest => do
    let c ← numbered? [a, b, c, d]
    let (cs, rest) ← basicLines false rest
    pure (c :: cs, rest)
  | '\\' :: 'U' :: a :: b :: c :: d :: e :: f :: g :: h :: rest => do
    let c ← numbered? [a, b, c, d, e, f, g, h]
    let (cs, rest) ← basicLines false rest
    pure (c :: cs, rest)
  | '\\' :: e :: rest =>
    if atLineEnd (e :: rest) then basicLines true (e :: rest)
    else do
      let c ← escape? e
      let (cs, rest) ← basicLines false rest
      pure (c :: cs, rest)
  | '\r' :: '\n' :: rest =>
    if skipping then basicLines true rest
    else do
      let (cs, rest) ← basicLines false rest
      pure ('\r' :: '\n' :: cs, rest)
  | c :: rest =>
    if skipping && (isSpace c || c == '\n') then basicLines true rest
    else do
      guard (isPlain c || c == '\n')
      let (cs, rest) ← basicLines false rest
      pure (c :: cs, rest)

/-- A text without escapes over several lines, after its opening quotes. -/
def literalLines : List Char → Option (List Char × List Char)
  | [] => none
  | '\'' :: '\'' :: '\'' :: rest => some (closing '\'' rest)
  | '\r' :: '\n' :: rest => do
    let (cs, rest) ← literalLines rest
    pure ('\r' :: '\n' :: cs, rest)
  | c :: rest => do
    guard (isPlain c || c == '\n')
    let (cs, rest) ← literalLines rest
    pure (c :: cs, rest)

/-- A text on one line, as names are written. -/
def lineText : Reader String := do
  let c ← next
  let cs ← if c == '"' then (basic : Reader (List Char))
    else if c == '\'' then (literal : Reader (List Char)) else failure
  pure (String.ofList cs)

/-- A text in any of the four forms. -/
def text : Reader String := do
  if ← takes "\"\"\"" then
    String.ofList <$> ((fun cs => basicLines false (dropLineBreak cs)) : Reader (List Char))
  else if ← takes "'''" then
    String.ofList <$> ((fun cs => literalLines (dropLineBreak cs)) : Reader (List Char))
  else lineText

end Scaffold.Toml
