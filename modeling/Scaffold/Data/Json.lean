/-
  Scaffold/Data/Json.lean
  =======================
  **Reading and writing JSON.**

  The reader takes exactly the texts of the JSON grammar: no comments, no comma before a closing
  bracket, no number with a leading zero, no control character inside a text. A text with half of a
  surrogate pair is well formed but has no value; it is kept as `Data.garbled`.

  The writer puts every item and every field on a line of its own, two spaces further in than its
  list or table.
-/
import Scaffold.Data.Json.Number
import Scaffold.Text.Quoted

namespace Scaffold.Json

open Scaffold Reader

/-! ### Texts -/

/-- A character of a text as it is written: itself, or a UTF-16 unit by its number. -/
inductive Piece
  | char (c : Char)
  | unit (n : Nat)
  deriving DecidableEq, Repr

/-- The character that a backslash and a letter stand for. -/
def escape? : Char → Option Char
  | '"' => some '"'
  | '\\' => some '\\'
  | '/' => some '/'
  | 'b' => some '\x08'
  | 'f' => some '\x0c'
  | 'n' => some '\n'
  | 'r' => some '\r'
  | 't' => some '\t'
  | _ => none

/-- The pieces up to the closing quote, and the rest after it. -/
def pieces : List Char → Option (List Piece × List Char)
  | [] => none
  | '"' :: rest => some ([], rest)
  | '\\' :: 'u' :: a :: b :: c :: d :: rest =>
    if [a, b, c, d].all (isDigitOf 16) then
      (pieces rest).map fun (ps, rest) => (.unit (ofDigits 16 [a, b, c, d]) :: ps, rest)
    else none
  | '\\' :: e :: rest =>
    match escape? e with
    | some c => (pieces rest).map fun (ps, rest) => (.char c :: ps, rest)
    | none => none
  | c :: rest =>
    if c.toNat < 32 || c == '\\' then none
    else (pieces rest).map fun (ps, rest) => (.char c :: ps, rest)

/-- The characters of a text; nothing when half of a surrogate pair stands alone. -/
def joined? : List Piece → Option (List Char)
  | [] => some []
  | .char c :: ps => (joined? ps).map (c :: ·)
  | .unit high :: .unit low :: ps =>
    if 0xD800 ≤ high && high < 0xDC00 then
      if 0xDC00 ≤ low && low < 0xE000 then
        (joined? ps).map (Char.ofNat (0x10000 + (high - 0xD800) * 1024 + (low - 0xDC00)) :: ·)
      else none
    else match charOf? high with
      | some c => (joined? (.unit low :: ps)).map (c :: ·)
      | none => none
  | .unit n :: ps =>
    match charOf? n with
    | some c => (joined? ps).map (c :: ·)
    | none => none

/-- A text after its opening quote: its characters when it has a value. -/
def textBody : Reader (Option String) := do
  let ps ← (pieces : Reader (List Piece))
  pure ((joined? ps).map String.ofList)

/-! ### Values -/

/-- Skips blanks. -/
def blanks : Reader Unit := do
  let _ ← takeWhile fun c => c == ' ' || c == '\n' || c == '\r' || c == '\t'

/-- Takes a word that stands for a value. -/
def literal (word : String) (d : Data) : Reader Data := do
  guard (← takes word)
  pure d

/-- A table of fields whose names may have no value. -/
def tableOf (fields : List (Option String × Data)) : Data :=
  match fields.mapM fun (name, d) => name.map (·, d) with
  | some fields => .table fields
  | none => .garbled

mutual

/-- A value; `fuel` bounds the steps. -/
def value : Nat → Reader Data
  | 0 => failure
  | fuel + 1 => do
    blanks
    match ← peek? with
    | some '\x7b' =>
      let _ ← next
      blanks
      if ← takes "\x7d" then pure (.table []) else tableOf <$> fields fuel
    | some '[' =>
      let _ ← next
      blanks
      if ← takes "]" then pure (.list []) else .list <$> items fuel
    | some '"' =>
      let _ ← next
      pure ((← textBody).elim .garbled .text)
    | some 'n' => literal "null" .null
    | some 't' => literal "true" (.bool true)
    | some 'f' => literal "false" (.bool false)
    | _ => number

/-- One item or more, up to the closing bracket. -/
def items : Nat → Reader (List Data)
  | 0 => failure
  | fuel + 1 => do
    let d ← value fuel
    blanks
    if ← takes "," then return d :: (← items fuel)
    char ']'
    pure [d]

/-- One field or more, up to the closing brace. -/
def fields : Nat → Reader (List (Option String × Data))
  | 0 => failure
  | fuel + 1 => do
    blanks
    char '"'
    let name ← textBody
    blanks
    char ':'
    let d ← value fuel
    blanks
    if ← takes "," then return (name, d) :: (← fields fuel)
    char '\x7d'
    pure [(name, d)]

end

/-- The value that a whole text says. -/
def read? (s : String) : Option Data :=
  let cs := s.toList
  readAll? (do let d ← value (2 * cs.length + 2); blanks; pure d) cs

/-! ### Writing -/

/-- A character as it stands between the quotes of a text. -/
def writtenChar (c : Char) : List Char :=
  match c with
  | '"' => ['\\', '"']
  | '\\' => ['\\', '\\']
  | '\n' => ['\\', 'n']
  | '\r' => ['\\', 'r']
  | '\t' => ['\\', 't']
  | '\x08' => ['\\', 'b']
  | '\x0c' => ['\\', 'f']
  | c =>
    if c.toNat < 32 then
      "\\u00".toList ++ [Text.hexDigit (c.toNat / 16), Text.hexDigit (c.toNat % 16)]
    else [c]

/-- A text between quotes. -/
def writtenText (s : String) : String :=
  String.ofList (['"'] ++ s.toList.flatMap writtenChar ++ ['"'])

/-- The start of a line at a depth. -/
def lineStart (depth : Nat) : String := "\n" ++ String.ofList (List.replicate (2 * depth) ' ')

/-- Entries between brackets, each on a line of its own. -/
def bracketed (depth : Nat) (start finish : String) (entries : List String) : String :=
  if entries.isEmpty then start ++ finish
  else start ++ lineStart (depth + 1) ++ Text.joinWith ("," ++ lineStart (depth + 1)) entries ++
    lineStart depth ++ finish

mutual

/-- A value as text, at a depth. -/
def write (depth : Nat) : Data → String
  | .null | .garbled => "null"
  | .bool b => if b then "true" else "false"
  | .integer n => toString n
  | .real r => r.shown
  | .text s => writtenText s
  | .moment s => writtenText s
  | .list items => bracketed depth "[" "]" (writeItems (depth + 1) items)
  | .table fields => bracketed depth "\x7b" "\x7d" (writeFields (depth + 1) fields)

/-- The items of a list as texts. -/
def writeItems (depth : Nat) : List Data → List String
  | [] => []
  | d :: ds => write depth d :: writeItems depth ds

/-- The fields of a table as texts. -/
def writeFields (depth : Nat) : List (String × Data) → List String
  | [] => []
  | (name, d) :: rest => (writtenText name ++ ": " ++ write depth d) :: writeFields depth rest

end

/-- A value as a text over several lines. -/
def pretty (d : Data) : String := write 0 d

end Scaffold.Json
