/-
  Scaffold/Data/Json5.lean
  ========================
  **Reading JSON5.**

  JSON as people write it: comments, a comma before a closing bracket, names without quotes, texts
  between single quotes that may go over a line break, numbers with a plus sign, without digits on
  one side of the point, in base 16, or beyond all numbers.
-/
import Scaffold.Data.Json
import Scaffold.Data.Literal

namespace Scaffold.Json5

open Scaffold Reader

/-! ### Blanks and comments -/

/-- Whether a character ends a line. -/
def isLineEnd (c : Char) : Bool := c == '\n' || c == '\r' || c == '\u2028' || c == '\u2029'

/-- Whether a character is blank: a space of any kind, a line break or a byte order mark. -/
def isBlank (c : Char) : Bool := (Letter.isBlank c && c != '\u0085') || c == '\ufeff'

/-- A place between the parts of a document. -/
inductive Between
  | plain
  | lineComment
  | comment
  deriving DecidableEq, Repr

/-- The rest of a text after blanks and comments. A comment that is opened has to be closed. -/
def skip : Between → List Char → Option (List Char)
  | .comment, [] => none
  | _, [] => some []
  | .comment, '*' :: '/' :: rest => skip .plain rest
  | .comment, _ :: rest => skip .comment rest
  | .lineComment, c :: rest => if isLineEnd c then skip .plain rest else skip .lineComment rest
  | .plain, '/' :: '/' :: rest => skip .lineComment rest
  | .plain, '/' :: '*' :: rest => skip .comment rest
  | .plain, c :: rest => if isBlank c then skip .plain rest else some (c :: rest)

/-- Skips blanks and comments. -/
def blanks : Reader Unit := fun cs => (skip .plain cs).map ((), ·)

/-! ### Texts -/

/-- The character that a backslash and another one stand for; nothing for those that begin a number.
-/
def escape? : Char → Option Char
  | 'b' => some '\x08'
  | 'f' => some '\x0c'
  | 'n' => some '\n'
  | 'r' => some '\r'
  | 't' => some '\t'
  | 'v' => some '\x0b'
  | 'x' | 'u' => none
  | c => if Letter.isAsciiDigit c then none else some c

/-- The pieces up to the closing quote, and the rest after it. A backslash takes a line break after
it along. -/
def pieces (quote : Char) : List Char → Option (List Json.Piece × List Char)
  | [] => none
  | '\\' :: 'u' :: a :: b :: c :: d :: rest => do
    guard ([a, b, c, d].all (isDigitOf 16))
    let (ps, rest) ← pieces quote rest
    pure (.unit (ofDigits 16 [a, b, c, d]) :: ps, rest)
  | '\\' :: 'x' :: a :: b :: rest => do
    guard ([a, b].all (isDigitOf 16))
    let (ps, rest) ← pieces quote rest
    pure (.unit (ofDigits 16 [a, b]) :: ps, rest)
  | '\\' :: '\r' :: '\n' :: rest => pieces quote rest
  | '\\' :: '0' :: rest => do
    guard (!rest.head?.any Letter.isAsciiDigit)
    let (ps, rest) ← pieces quote rest
    pure (.char '\x00' :: ps, rest)
  | '\\' :: e :: rest => do
    if isLineEnd e then pieces quote rest
    else
      let c ← escape? e
      let (ps, rest) ← pieces quote rest
      pure (.char c :: ps, rest)
  | c :: rest =>
    if c == quote then some ([], rest)
    else if c == '\n' || c == '\r' || c == '\\' then none
    else (pieces quote rest).map fun (ps, rest) => (.char c :: ps, rest)

/-- A text between quotes. -/
def text : Reader String := do
  let quote ← next
  guard (quote == '"' || quote == '\'')
  let ps ← (pieces quote : Reader (List Json.Piece))
  match Json.joined? ps with
  | some cs => pure (String.ofList cs)
  | none => failure

/-! ### Names -/

/-- Whether a character may begin a name without quotes. -/
def isNameStart (c : Char) : Bool := Letter.isAlphabetic c || c == '$' || c == '_'

/-- Whether a character may stand in a name without quotes. -/
def isNamePart (c : Char) : Bool :=
  isNameStart c || Letter.isNumeric c || c == '\u200c' || c == '\u200d'

/-- The characters of a name without quotes, in which a character may be written by its number. -/
def nameParts : List Char → Option (List Char × List Char)
  | '\\' :: 'u' :: a :: b :: c :: d :: rest => do
    guard ([a, b, c, d].all (isDigitOf 16))
    let part ← charOf? (ofDigits 16 [a, b, c, d])
    guard (isNamePart part)
    let (cs, rest) ← nameParts rest
    pure (part :: cs, rest)
  | c :: rest =>
    if isNamePart c then (nameParts rest).map fun (cs, rest) => (c :: cs, rest)
    else some ([], c :: rest)
  | [] => some ([], [])

/-- A name of a field, with quotes or without. -/
def name : Reader String := do
  match ← peek? with
  | some '"' | some '\'' => text
  | _ =>
    let cs ← (nameParts : Reader (List Char))
    guard (cs.head?.any isNameStart)
    pure (String.ofList cs)

/-! ### Numbers -/

/-- The digits of a decimal number, with the point and the exponent between them. -/
def decimal : Reader (List Char) := do
  let whole ← takeWhile Letter.isAsciiDigit
  guard (whole.head? != some '0' || whole.length == 1)
  let point ← takes "."
  let part ← if point then takeWhile Letter.isAsciiDigit else pure []
  let power ← match ← peek? with
    | some 'e' | some 'E' =>
      let _ ← next
      let sign ← takeWhile fun c => c == '+' || c == '-'
      guard (sign.length ≤ 1)
      pure ('e' :: sign ++ (← Json.digits))
    | _ => pure []
  pure (whole ++ (if point then '.' :: part else []) ++ power)

/-- The value of a decimal number: whole when it has neither point nor exponent and fits 64 bits. -/
def ofDecimal? (isNegative : Bool) (cs : List Char) : Option Data :=
  let cs := if isNegative then '-' :: cs else cs
  match (Literal.whole? 10 cs).filter Literal.isShort with
  | some n => some (.integer n)
  | none => (Literal.real? cs).map .real

/-- A number. -/
def number : Reader Data := do
  let isNegative ← takes "-"
  if !isNegative then let _ ← takes "+"
  if ← takes "Infinity" then return .real (.infinite isNegative)
  if ← takes "NaN" then return .real .undefined
  let isHex ← (fun cs => match cs with
    | '0' :: 'x' :: cs => some (true, cs)
    | '0' :: 'X' :: cs => some (true, cs)
    | cs => some (false, cs) : Reader Bool)
  if isHex then
    let ds ← takeWhile (isDigitOf 16)
    guard (!ds.isEmpty)
    let n := Literal.signed isNegative (ofDigits 16 ds)
    if Literal.isShort n then return .integer n
    return .real (Real.ofDecimal { isNegative, digits := n.natAbs })
  match ofDecimal? isNegative (← decimal) with
  | some d => pure d
  | none => failure

/-! ### Values -/

mutual

/-- A value; `fuel` bounds the steps. -/
def value : Nat → Reader Data
  | 0 => failure
  | fuel + 1 => do
    blanks
    match ← peek? with
    | some '\x7b' =>
      let _ ← next
      .table <$> fields fuel
    | some '[' =>
      let _ ← next
      .list <$> items fuel
    | some '"' | some '\'' => .text <$> text
    | some 'n' => Json.literal "null" .null
    | some 't' => Json.literal "true" (.bool true)
    | some 'f' => Json.literal "false" (.bool false)
    | _ => number

/-- The items of a list up to its closing bracket. -/
def items : Nat → Reader (List Data)
  | 0 => failure
  | fuel + 1 => do
    blanks
    if ← takes "]" then return []
    let d ← value fuel
    blanks
    if ← takes "," then return d :: (← items fuel)
    char ']'
    pure [d]

/-- The fields of a table up to its closing brace. -/
def fields : Nat → Reader (List (String × Data))
  | 0 => failure
  | fuel + 1 => do
    blanks
    if ← takes "\x7d" then return []
    let key ← name
    blanks
    char ':'
    let d ← value fuel
    blanks
    if ← takes "," then return (key, d) :: (← fields fuel)
    char '\x7d'
    pure [(key, d)]

end

/-- The value that a whole text says. -/
def read? (s : String) : Option Data :=
  let cs := s.toList
  readAll? (do let d ← value (2 * cs.length + 2); blanks; pure d) cs

end Scaffold.Json5
