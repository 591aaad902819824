/-
  Scaffold/Data/Toml.lean
  =======================
  **Reading TOML.**

  A document is a sequence of lines, each a header, an assignment or nothing, with a comment at the
  end. Lists and tables in braces may go over several lines, with comments between their parts, and
  end with a comma; they are nested at most `nesting` deep. A name has at most `maxParts` parts.
-/
import Scaffold.Data.Toml.Scalar
import Scaffold.Data.Toml.Tables
import Scaffold.Data.Toml.Text

namespace Scaffold.Toml

open Scaffold Reader

/-! ### Blanks and comments -/

/-- Skips spaces and tabs. -/
def spaces : Reader Unit := do
  let _ ← takeWhile isSpace

/-- Skips spaces, line breaks and comments. `inComment` tells that a comment is under way. -/
def skipLines (inComment : Bool) : List Char → Option (List Char)
  | [] => some []
  | '\r' :: '\n' :: rest => skipLines false rest
  | c :: rest =>
    if c == '\n' then skipLines false rest
    else if inComment then if isPlain c then skipLines true rest else none
    else if isSpace c then skipLines false rest
    else if c == '#' then skipLines true rest
    else some (c :: rest)

/-- Skips spaces, line breaks and comments. -/
def lines : Reader Unit := fun cs => (skipLines false cs).map ((), ·)

/-- The rest of a line after a statement: spaces, a comment, and the line break or the end. -/
def lineEnd : Reader Unit := do
  spaces
  if ← takes "#" then
    let _ ← takeWhile isPlain
  match ← peek? with
  | none => pure ()
  | some '\n' => char '\n'
  | _ => guard (← takes "\r\n")

/-! ### Names -/

/-- Whether a character may stand in a name without quotes. -/
def isNamePart (c : Char) : Bool :=
  Letter.isAsciiLetter c || Letter.isAsciiDigit c || c == '_' || c == '-'

/-- How many parts a name may have. -/
def maxParts : Nat := 80

/-- One part of a name. -/
def namePart : Reader String := do
  let cs ← takeWhile isNamePart
  if cs.isEmpty then lineText else pure (String.ofList cs)

/-- The parts of a name after the first, which may be so many. -/
def moreParts : Nat → Reader (List String)
  | 0 => do
    spaces
    guard ((← peek?) != some '.')
    pure []
  | room + 1 => do
    spaces
    if ← takes "." then
      spaces
      let part ← namePart
      return part :: (← moreParts room)
    pure []

/-- A name with its parts between dots, and the spaces after it. -/
def name : Reader (List String) := do
  let part ← namePart
  return part :: (← moreParts (maxParts - 1))

/-! ### Values -/

/-- How deep lists and tables in braces may be nested. -/
def nesting : Nat := 80

mutual

/-- A value; `fuel` bounds the steps and `room` the nesting. -/
def value : Nat → Nat → Reader Data
  | 0, _ => failure
  | fuel + 1, room => do
    match ← peek? with
    | some '"' | some '\'' => .text <$> text
    | some '[' =>
      let _ ← next
      guard (0 < room)
      .list <$> items fuel (room - 1)
    | some '\x7b' =>
      let _ ← next
      guard (0 < room)
      let entries ← entries fuel (room - 1)
      match entries.foldlM (fun fields (path, d) => assign path d fields) [] with
      | some fields => pure (.table (dataOfFields fields))
      | none => failure
    | _ => scalar

/-- The items of a list up to its closing bracket. -/
def items : Nat → Nat → Reader (List Data)
  | 0, _ => failure
  | fuel + 1, room => do
    lines
    if ← takes "]" then return []
    let d ← value fuel room
    lines
    if ← takes "," then return d :: (← items fuel room)
    char ']'
    pure [d]

/-- The assignments of a table in braces up to the closing one. -/
def entries : Nat → Nat → Reader (List (List String × Data))
  | 0, _ => failure
  | fuel + 1, room => do
    lines
    if ← takes "\x7d" then return []
    let path ← name
    lines
    char '='
    lines
    let d ← value fuel room
    lines
    if ← takes "," then return (path, d) :: (← entries fuel room)
    char '\x7d'
    pure [(path, d)]

end

/-! ### Documents -/

/-- A line of a document. -/
inductive Statement
  | openTable (path : List String)
  | openNext (path : List String)
  | assign (path : List String) (value : Data)

/-- A header or an assignment, up to the end of its line. -/
def statement (fuel : Nat) : Reader Statement := do
  let s ← if ← takes "[[" then do
      spaces
      let path ← name
      guard (← takes "]]")
      pure (.openNext path)
    else if ← takes "[" then do
      spaces
      let path ← name
      guard (← takes "]")
      pure (.openTable path)
    else do
      let path ← name
      char '='
      spaces
      pure (.assign path (← value fuel nesting))
  lineEnd
  pure s

/-- All statements up to the end; `fuel` bounds them. -/
def statements : Nat → Reader (List Statement)
  | 0 => failure
  | fuel + 1 => do
    lines
    if (← peek?).isNone then return []
    let s ← statement fuel
    return s :: (← statements fuel)

/-- A document under way: its entries, and the table that assignments go to. -/
structure Document where
  fields : Fields := []
  current : List String := []

namespace Document

/-- The document after one more statement. -/
def after (doc : Document) : Statement → Option Document
  | .openTable path => (Toml.openTable path doc.fields).map (⟨·, path⟩)
  | .openNext path => (Toml.openNext path doc.fields).map (⟨·, path⟩)
  | .assign path value =>
    (within (Toml.assign path value) doc.current doc.fields).map (⟨·, doc.current⟩)

end Document

/-- The table that a whole text says. -/
def read? (s : String) : Option Data := do
  let cs := (Text.dropMark s).toList
  let ss ← readAll? (statements (2 * cs.length + 2)) cs
  let doc ← ss.foldlM Document.after {}
  pure (.table (dataOfFields doc.fields))

end Scaffold.Toml
