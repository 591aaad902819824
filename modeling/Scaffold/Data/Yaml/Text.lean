/-
  Scaffold/Data/Yaml/Text.lean
  ============================
  **Texts in YAML.**

  A text is written between quotes, as it stands, or as a block of lines. Between quotes and as it
  stands it may go over several lines: one line break counts as a space, and of several all but the
  first are kept. A block keeps its line breaks, or folds them between lines that are not indented
  further.
-/
import Scaffold.Data.Yaml.Cursor

namespace Scaffold.Yaml

open Scaffold

/-! ### Gaps between words -/

/-- So many line breaks. -/
def breaks (n : Nat) : List Char := List.replicate n '\n'

/-- What so many line breaks between two words amount to. -/
def folded : Nat → List Char
  | 0 => []
  | 1 => [' ']
  | n + 1 => breaks n

/-- The blanks before the first line break, how many line breaks there are, and the place after all
of it. -/
structure Gap where
  spaces : List Char
  lines : Nat
  place : Cursor

/-- The gap that begins at a place. `isBroken` tells that a line break came before, from which on
`tab` decides what becomes of a tab left of the text; `fuel` bounds the characters. -/
def gap (tab : Cursor → Option Cursor) (isBroken : Bool) : Nat → Cursor → Option Gap
  | 0, _ => none
  | fuel + 1, c =>
    match c.rest with
    | '\n' :: _ => (gap tab true fuel c.nextLine).map fun g => ⟨[], g.lines + 1, g.place⟩
    | d :: _ =>
      if !isSpace d then some ⟨[], 0, c⟩
      else if isBroken then do
        let c ← if d == '\t' then tab c else pure (c.after 1)
        gap tab true fuel c
      else (gap tab false fuel (c.after 1)).map fun g => { g with spaces := d :: g.spaces }
    | [] => some ⟨[], 0, c⟩

/-- The text that a gap between two words amounts to. -/
def Gap.text (g : Gap) : List Char := if g.lines = 0 then g.spaces else folded g.lines

/-! ### Between quotes -/

/-- The character that a backslash and another one stand for. -/
def escape? : Char → Option Char
  | '0' => some '\x00'
  | 'a' => some '\x07'
  | 'b' => some '\x08'
  | 't' | '\t' => some '\t'
  | 'n' => some '\n'
  | 'v' => some '\x0b'
  | 'f' => some '\x0c'
  | 'r' => some '\r'
  | 'e' => some '\x1b'
  | ' ' => some ' '
  | '"' => some '"'
  | '/' => some '/'
  | '\\' => some '\\'
  | 'N' => some '\u0085'
  | '_' => some '\u00a0'
  | 'L' => some '\u2028'
  | 'P' => some '\u2029'
  | _ => none

/-- How many digits of a number come after a backslash and a letter. -/
def escapeWidth? : Char → Option Nat
  | 'x' => some 2
  | 'u' => some 4
  | 'U' => some 8
  | _ => none

/-- The character after a backslash, and how many characters it takes. -/
def escaped? : List Char → Option (Char × Nat)
  | [] => none
  | e :: rest =>
    match escapeWidth? e with
    | none => (escape? e).map (·, 1)
    | some width => do
      let ds := rest.take width
      guard (ds.length = width && ds.all (isDigitOf 16))
      pure (← charOf? (ofDigits 16 ds), width + 1)

/-- A word of a text between quotes, up to a blank, a line break or the closing quote, and whether a
backslash took the line break after it along; `fuel` bounds the characters. -/
def quotedWord (quote : Char) : Nat → Cursor → Option (List Char × Bool × Cursor)
  | 0, _ => none
  | fuel + 1, c => do
    match c.rest with
    | [] => some ([], false, c)
    | d :: rest =>
      if isGap d then pure ([], false, c)
      else if quote == '\'' && d == '\'' && rest.head? == some '\'' then
        let (cs, isBroken, c) ← quotedWord quote fuel (c.after 2)
        pure ('\'' :: cs, isBroken, c)
      else if d == quote then pure ([], false, c)
      else if quote == '"' && d == '\\' then
        if rest.head? == some '\n' then pure ([], true, (c.after 1).nextLine)
        else
          let (e, width) ← escaped? rest
          let (cs, isBroken, c) ← quotedWord quote fuel (c.after (width + 1))
          pure (e :: cs, isBroken, c)
      else
        let (cs, isBroken, c) ← quotedWord quote fuel (c.after 1)
        pure (d :: cs, isBroken, c)

/-- A text after its opening quote, right of an indentation, and the place after the closing quote;
`fuel` bounds the words. -/
def quotedRest (quote : Char) (indent : Int) : Nat → Cursor → Option (List Char × Cursor)
  | 0, _ => none
  | fuel + 1, c => do
    guard (!c.atMark && !c.rest.isEmpty && !c.isLeftOf indent)
    let size := c.rest.length + 1
    let (word, isBroken, c) ← quotedWord quote size c
    if c.rest.head? == some quote then pure (word, c.after 1)
    else
      let tab (c : Cursor) : Option Cursor :=
        if c.isLeftOf indent then none else some (c.after 1)
      let g ← gap tab isBroken size c
      let between := if isBroken then breaks g.lines else g.text
      let (more, c) ← quotedRest quote indent fuel g.place
      pure (word ++ between ++ more, c)

/-- A text from its opening quote on. -/
def quoted (indent : Int) (c : Cursor) : Option (List Char × Cursor) :=
  quotedRest (c.rest.headD '"') indent (c.rest.length + 1) (c.after 1)

/-! ### As it stands -/

/-- Whether a text goes on with a word that needs no quotes. `inBrackets` tells whether it stands
between brackets. -/
def startsWord (inBrackets : Bool) : List Char → Bool
  | [] => false
  | c :: rest =>
    if isGap c then false
    else if c == ':' then !atGap rest && !(inBrackets && rest.head?.any isBracket)
    else !(inBrackets && isBracket c)

/-- The characters of a word that needs no quotes. -/
def plainWord (inBrackets : Bool) : List Char → List Char
  | [] => []
  | c :: rest => if startsWord inBrackets (c :: rest) then c :: plainWord inBrackets rest else []

/-- A text without quotes, right of an indentation, and the place after it and the blanks that
follow; `between` is what comes before its next word, and `fuel` bounds the words. -/
def plainRest (inBrackets : Bool) (indent : Int) (between : List Char) :
    Nat → Cursor → Option (List Char × Cursor)
  | 0, _ => none
  | fuel + 1, c => do
    if c.atMark || c.rest.head? == some '#' then return ([], c)
    guard (!(inBrackets && c.rest.head? == some '-' && (c.rest.drop 1).head?.any isBracket))
    let word := plainWord inBrackets c.rest
    let text := if word.isEmpty then [] else between ++ word
    let c := c.after word.length
    if !c.rest.head?.any isGap then return (text, c)
    let tab (c : Cursor) : Option Cursor :=
      if c.isLeftOf indent then do
        let (_, c) ← c.afterBlanks true
        if atLineEnd c.rest then pure c else none
      else some (c.after 1)
    let g ← gap tab false (c.rest.length + 1) c
    if !inBrackets && g.place.isLeftOf indent then return (text, g.place)
    let (more, c) ← plainRest inBrackets indent g.text fuel g.place
    pure (text ++ more, c)

/-- A text without quotes, right of an indentation; it has a character at least. -/
def plain (inBrackets : Bool) (indent : Int) (c : Cursor) : Option (List Char × Cursor) := do
  guard (!(inBrackets && c.isLeftOf indent))
  let (cs, c) ← plainRest inBrackets indent [] (c.rest.length + 1) c
  guard (!cs.isEmpty)
  pure (cs, c)

/-! ### As a block of lines -/

/-- What becomes of the line breaks at the end of a block. -/
inductive Chomping
  | clip
  | strip
  | keep
  deriving DecidableEq, Repr

/-- How a block is to be read: the line breaks at its end, and how much further in it is than what
is around it, when that is said. -/
structure BlockHead where
  chomping : Chomping := .clip
  increment : Nat := 0

namespace BlockHead

/-- The head with what one of its signs says. -/
def with? (h : BlockHead) (c : Char) : Option BlockHead :=
  if c == '+' then some { h with chomping := .keep }
  else if c == '-' then some { h with chomping := .strip }
  else if c == '0' then none
  else some { h with increment := digitValue c }

/-- The head of a block: a sign, a digit, both in any order, or nothing. -/
def read (c : Cursor) : Option (BlockHead × Cursor) := do
  let isSign (d : Char) : Bool := d == '+' || d == '-'
  match c.rest with
  | d :: e :: _ =>
    if (isSign d && Letter.isAsciiDigit e) || (Letter.isAsciiDigit d && isSign e) then
      pure (← (← ({} : BlockHead).with? d).with? e, c.after 2)
    else if isSign d || Letter.isAsciiDigit d then pure (← ({} : BlockHead).with? d, c.after 1)
    else pure ({}, c)
  | [d] =>
    if isSign d || Letter.isAsciiDigit d then pure (← ({} : BlockHead).with? d, c.after 1)
    else pure ({}, c)
  | [] => pure ({}, c)

end BlockHead

/-- The spaces up to a column, over empty lines: how many lines there were, and the place after
them; `fuel` bounds the lines. -/
def blockIndent (column : Nat) : Nat → Cursor → Nat × Cursor
  | 0, c => (0, c)
  | fuel + 1, c =>
    let spaces := ((c.rest.takeWhile (· == ' ')).take (column - c.column)).length
    let c := c.after spaces
    match c.rest with
    | '\n' :: _ =>
      let (n, c) := blockIndent column fuel c.nextLine
      (n + 1, c)
    | _ => (0, c)

/-- The spaces before the first line of a block, over empty lines: the greatest column they reach,
how many lines there were, and the place after them; `fuel` bounds the lines. -/
def firstIndent : Nat → Cursor → Nat × Nat × Cursor
  | 0, c => (c.column, 0, c)
  | fuel + 1, c =>
    let c := (c.afterWhile (· == ' ')).2
    match c.rest with
    | '\n' :: _ =>
      let (column, n, c') := firstIndent fuel c.nextLine
      (max c.column column, n + 1, c')
    | _ => (c.column, 0, c)

/-- The lines of a block at a column, and what is left to decide about its end: the line breaks
right after the last line and those of empty lines after it. `isMore` tells that the line before is
indented further; `fuel` bounds the lines. -/
def blockLines (isLiteral : Bool) (column : Nat) (isMore : Bool) (last empty : Nat) :
    Nat → Cursor → List Char × Nat × Nat × Cursor
  | 0, c => ([], last, empty, c)
  | fuel + 1, c =>
    if c.column != column || c.rest.isEmpty || (column = 0 && startsMark '.' c.rest) then
      ([], last, empty, c)
    else
      let startsMore := c.rest.head?.any isSpace
      let between :=
        if !isLiteral && last != 0 && !isMore && !startsMore then
          if empty = 0 then [' '] else breaks empty
        else breaks (last + empty)
      let (line, c) := c.afterWhile fun _ => true
      if c.rest.isEmpty then (between ++ line, 0, 0, c)
      else
        let c := c.nextLine
        let (empty, c) := blockIndent column (c.rest.length + 1) c
        let (more, rest) := blockLines isLiteral column startsMore 1 empty fuel c
        (between ++ line ++ more, rest)

/-- A block of lines after its indicator, further in than an indentation. -/
def block (isLiteral : Bool) (indent : Int) (c : Cursor) : Option (List Char × Cursor) := do
  let firstLine := c.line
  let (head, c) ← BlockHead.read c
  let (_, c) ← c.afterBlanks true
  guard (atLineEnd c.rest)
  let first := if c.rest.isEmpty then 0 else 1
  let c := if c.rest.isEmpty then c else c.nextLine
  guard (c.rest.head? != some '\t')
  let size := c.rest.length + 1
  let (column, empty, c) :=
    if head.increment = 0 then
      let (column, empty, c) := firstIndent size c
      (max column (indent + 1).toNat, empty, c)
    else
      let column := (max indent 0).toNat + head.increment
      (column, blockIndent column size c)
  if c.rest.isEmpty then
    let ending := match head.chomping with
      | .strip => 0
      | .clip => if c.line = firstLine then 0 else first
      | .keep => if c.line = firstLine then 0 else if empty = 0 then first else empty
    return (breaks ending, c)
  guard (!(c.column < column && indent < c.column))
  let (text, last, empty, c) := blockLines isLiteral column false 0 empty size c
  let isCut := c.rest.isEmpty && max column 1 ≤ c.column
  let ending := match head.chomping with
    | .strip => 0
    | .clip => last + (if isCut then 1 else 0)
    | .keep => last + (if isCut then 1 else 0) + empty
  pure (text ++ breaks ending, c)

end Scaffold.Yaml
