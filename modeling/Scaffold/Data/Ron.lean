/-
  Scaffold/Data/Ron.lean
  ======================
  **Reading RON.**

  Tables are written as structures, `Name(field: value)` with or without the name, or as maps,
  `{"field": value}`; lists stand in brackets or, as tuples, in parentheses. `Some(x)` is `x`;
  `None`, the unit and a name alone are null. Every number is a double, and a character is a text.
  All of it nests at most `nesting` deep, and comments may be nested too.
-/
import Scaffold.Data
import Scaffold.Data.Literal

namespace Scaffold.Ron

open Scaffold Reader

/-! ### Blanks and comments -/

/-- Whether a character is blank. -/
def isBlank (c : Char) : Bool :=
  c == ' ' || ('\t' ≤ c && c ≤ '\r') || c == '\u0085' || c == '\u200e' || c == '\u200f' ||
    c == '\u2028' || c == '\u2029'

/-- The rest of a text after a comment within so many others. -/
def skipComment : Nat → List Char → Option (List Char)
  | _, [] => none
  | level, '/' :: '*' :: rest => skipComment (level + 1) rest
  | 0, '*' :: '/' :: rest => some rest
  | level + 1, '*' :: '/' :: rest => skipComment level rest
  | level, _ :: rest => skipComment level rest

/-- The rest of a text after blanks and comments; `fuel` bounds them. -/
def skip : Nat → List Char → Option (List Char)
  | 0, _ => none
  | fuel + 1, cs =>
    match cs.dropWhile isBlank with
    | '/' :: '/' :: rest => skip fuel (rest.dropWhile (· != '\n'))
    | '/' :: '*' :: rest => (skipComment 0 rest).bind (skip fuel)
    | rest => some rest

/-- Skips blanks and comments. -/
def blanks : Reader Unit := fun cs => (skip (cs.length + 1) cs).map ((), ·)

/-- Takes a comma with the blanks around it; tells whether there was one. -/
def comma : Reader Bool := do
  blanks
  let found ← takes ","
  if found then blanks
  pure found

/-! ### Names -/

/-- Whether a character may begin a name. -/
def isNameStart (c : Char) : Bool := Letter.isAlphabetic c || c == '_'

/-- Whether a character may stand in a name. -/
def isNamePart (c : Char) : Bool := isNameStart c || Letter.isNumeric c

/-- Whether a character may stand in a name after `r#`. -/
def isRawNamePart (c : Char) : Bool := isNamePart c || c == '.' || c == '+' || c == '-'

/-- How texts and bytes begin that could be taken for a name. -/
def literalStarts : List String := ["b\"", "b'", "br#", "br\"", "r\"", "r#\"", "r##"]

/-- A name, when there is one. -/
def name? : Reader (Option String) := fun cs =>
  if literalStarts.any (·.toList.isPrefixOf cs) then some (none, cs)
  else match cs with
    | 'r' :: '#' :: rest =>
      let part := rest.takeWhile isRawNamePart
      if part.isEmpty then some (none, cs)
      else some (some (String.ofList part), rest.drop part.length)
    | _ =>
      let part := cs.takeWhile isNamePart
      if part.head?.any isNameStart then some (some (String.ofList part), cs.drop part.length)
      else some (none, cs)

/-! ### Texts -/

/-- The character that a backslash and another one stand for. -/
def escape? : Char → Option Char
  | '\'' => some '\''
  | '"' => some '"'
  | '\\' => some '\\'
  | 'n' => some '\n'
  | 'r' => some '\r'
  | 't' => some '\t'
  | '0' => some '\x00'
  | _ => none

/-- A character after its backslash. -/
def escaped : Reader Char := do
  let found ← match ← next with
    | 'x' => do
      let ds ← takeExactly (isDigitOf 16) 2
      pure (charOf? (ofDigits 16 ds))
    | 'u' => do
      char '\x7b'
      let ds ← takeWhile (isDigitOf 16)
      char '\x7d'
      guard (!ds.isEmpty && ds.length ≤ 6)
      pure (charOf? (ofDigits 16 ds))
    | e => pure (escape? e)
  match found with
  | some c => pure c
  | none => failure

/-- The characters up to the closing quote; `fuel` bounds them. -/
def textBody : Nat → Reader (List Char)
  | 0 => failure
  | fuel + 1 => do
    match ← next with
    | '"' => pure []
    | '\\' => return (← escaped) :: (← textBody fuel)
    | c => return c :: (← textBody fuel)

/-- The characters up to a closing quote with so many hash signs after it. -/
def rawBody (hashes : Nat) : List Char → Option (List Char × List Char)
  | [] => none
  | c :: rest =>
    if c == '"' && (List.replicate hashes '#').isPrefixOf rest then some ([], rest.drop hashes)
    else (rawBody hashes rest).map fun (cs, rest) => (c :: cs, rest)

/-- A text, with escapes or without. -/
def text (fuel : Nat) : Reader String := do
  let cs ← if ← takes "r" then do
      let hashes ← takeWhile (· == '#')
      char '"'
      (rawBody hashes.length : Reader (List Char))
    else do
      char '"'
      textBody fuel
  pure (String.ofList cs)

/-- A single character between quotes. -/
def letter : Reader String := do
  char '\''
  let c ← match ← next with
    | '\\' => escaped
    | c => pure c
  char '\''
  pure (String.ofList [c])

/-! ### Numbers -/

/-- Whether a character may stand in a number without a sign. -/
def isNumberPart (c : Char) : Bool :=
  Letter.isAsciiDigit c || Letter.isAsciiLetter c || c == '_' || c == '.'

/-- The characters of a number, with the sign of its exponent. -/
def numberParts (isHex : Bool) : List Char → List Char × List Char
  | [] => ([], [])
  | e :: sign :: rest =>
    if (e == 'e' || e == 'E') && (sign == '+' || sign == '-') && !isHex then
      let (cs, rest) := numberParts isHex rest
      (e :: sign :: cs, rest)
    else if isNumberPart e then
      let (cs, rest) := numberParts isHex (sign :: rest)
      (e :: cs, rest)
    else ([], e :: sign :: rest)
  | [c] => if isNumberPart c then ([c], []) else ([], [c])

/-- A number without the name of its type at the end. -/
def withoutType (suffixes : List String) (cs : List Char) : List Char :=
  match suffixes.find? fun s => s.toList.reverse.isPrefixOf cs.reverse with
  | some s => cs.take (cs.length - s.toList.length)
  | none => cs

/-- The digits of a number without the underscores, none of which stands in front. -/
def grouped? (cs : List Char) : Option (List Char) :=
  if cs.head? == some '_' then none else some (cs.filter (· != '_'))

/-- The types of whole numbers. -/
def wholeTypes : List String :=
  ["i8", "i16", "i32", "i64", "i128", "u8", "u16", "u32", "u64", "u128"]

/-- The value of a number without its sign; there is no negative zero among whole numbers. -/
def numberOf? (isNegative : Bool) (cs : List Char) : Option Real :=
  let whole (base : Nat) (cs : List Char) : Option Real := do
    let n ← Literal.whole? base (← grouped? (withoutType wholeTypes cs))
    pure (Real.ofDecimal { isNegative := isNegative && n != 0, digits := n.natAbs })
  match cs with
  | '0' :: 'x' :: cs => whole 16 cs
  | '0' :: 'o' :: cs => whole 8 cs
  | '0' :: 'b' :: cs => whole 2 cs
  | ['i', 'n', 'f'] => some (.infinite isNegative)
  | ['N', 'a', 'N'] => some .undefined
  | cs =>
    (whole 10 cs).or do
      let cs ← grouped? (withoutType ["f32", "f64"] cs)
      Literal.real? (if isNegative then '-' :: cs else cs)

/-- A number. -/
def number : Reader Real := do
  let isNegative ← takes "-"
  if !isNegative then let _ ← takes "+"
  guard ((← peek?).any isNumberPart)
  let cs ← (fun cs => some (numberParts ("0x".toList.isPrefixOf cs) cs) : Reader (List Char))
  match numberOf? isNegative cs with
  | some value => pure value
  | none => failure

/-! ### Values -/

/-- How deep values may be nested. -/
def nesting : Nat := 128

/-- Whether what follows an opening parenthesis is a name and a colon. -/
def isStructure : Reader Bool := fun cs =>
  let named : Reader Bool := do
    blanks
    let name ← name?
    blanks
    pure (name.isSome && (← peek?) == some ':')
  match named cs with
  | some (answer, _) => some (answer, cs)
  | none => some (false, cs)

/-- Goes one level deeper, when there is room for it. -/
def deeper (room : Nat) : Reader Unit := guard (0 < room)

mutual

/-- A value; `fuel` bounds the steps and `room` the nesting. -/
def value : Nat → Nat → Reader Data
  | 0, _ => failure
  | fuel + 1, room => do
    match ← name? with
    | some "true" => pure (.bool true)
    | some "false" => pure (.bool false)
    | some "None" => pure .null
    | some "inf" => pure (.real (.infinite false))
    | some "NaN" => pure (.real .undefined)
    | some "Some" =>
      blanks
      char '('
      deeper room
      blanks
      let d ← value fuel (room - 1)
      let _ ← comma
      char ')'
      pure d
    | some _ =>
      blanks
      if (← peek?) == some '(' then body fuel room else pure .null
    | none =>
      match ← peek? with
      | some '(' => if ← takes "()" then pure .null else body fuel room
      | some '[' =>
        let _ ← next
        deeper room
        .list <$> items fuel (room - 1) ']'
      | some '\x7b' =>
        let _ ← next
        deeper room
        .table <$> fields fuel (room - 1) false '\x7d'
      | some '"' | some 'r' => .text <$> text fuel
      | some '\'' => .text <$> letter
      | _ => .real <$> number

/-- A structure or a tuple in its parentheses. -/
def body : Nat → Nat → Reader Data
  | 0, _ => failure
  | fuel + 1, room => do
    char '('
    deeper room
    if ← isStructure then .table <$> fields fuel (room - 1) true ')'
    else .list <$> items fuel (room - 1) ')'

/-- The items of a list up to its closing bracket. -/
def items : Nat → Nat → Char → Reader (List Data)
  | 0, _, _ => failure
  | fuel + 1, room, close => do
    blanks
    if ← takes (String.ofList [close]) then return []
    let d ← value fuel room
    if ← comma then return d :: (← items fuel room close)
    char close
    pure [d]

/-- The fields of a table up to its closing bracket. `isNamed` tells that their names are not values
themselves. -/
def fields : Nat → Nat → Bool → Char → Reader (List (String × Data))
  | 0, _, _, _ => failure
  | fuel + 1, room, isNamed, close => do
    blanks
    if ← takes (String.ofList [close]) then return []
    let key ← if isNamed then name? else Data.text? <$> value fuel room
    blanks
    char ':'
    blanks
    let d ← value fuel room
    let hasMore ← comma
    match key with
    | none => failure
    | some key =>
      if hasMore then return (key, d) :: (← fields fuel room isNamed close)
      char close
      pure [(key, d)]

end

/-! ### Documents -/

/-- The extensions of the format that a document may ask for. -/
def extensions : List String :=
  ["unwrap_newtypes", "implicit_some", "unwrap_variant_newtypes", "explicit_struct_names"]

/-- Takes words with blanks between them. -/
def words : List String → Reader Unit
  | [] => pure ()
  | word :: rest => do
    blanks
    guard (← takes word)
    words rest

/-- Names of extensions with commas between them; `fuel` bounds them. -/
def extensionNames : Nat → Reader Unit
  | 0 => failure
  | fuel + 1 => do
    let name ← name?
    guard (name.any extensions.contains)
    if ← comma then
      if (← peek?) != some ')' then extensionNames fuel

/-- The lines that ask for extensions, in front of the value; `fuel` bounds them. -/
def attributes : Nat → Reader Unit
  | 0 => failure
  | fuel + 1 => do
    blanks
    if (← peek?) == some '#' then
      words ["#", "!", "[", "enable", "("]
      blanks
      extensionNames fuel
      words [")", "]"]
      attributes fuel

/-- The value that a whole text says. -/
def read? (s : String) : Option Data :=
  let cs := s.toList
  let fuel := 3 * cs.length + 3
  readAll? (do attributes fuel; let d ← value fuel nesting; blanks; pure d) cs

end Scaffold.Ron
