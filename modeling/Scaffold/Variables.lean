/-
  Scaffold/Variables.lean
  =======================
  **Environment variables, and the file that adds to them.**

  A file of variables has one `NAME=value` on each line. A value may be quoted, with `"` also over
  several lines; a backslash escapes; `$NAME` and `${NAME}` stand for the value of another variable;
  a `#` after a blank starts a comment. The file adds variables but changes none, and ends at the
  first line that is broken.
-/
import Scaffold.Text

namespace Scaffold

/-! ### Variables -/

/-- The variables of a run. -/
abbrev Variables := List (String × String)

namespace Variables

/-- The value of a variable. -/
def get? (vars : Variables) (name : String) : Option String := vars.lookup name

/-- Adds a variable, unless it is there. -/
def add (vars : Variables) (name value : String) : Variables :=
  if (vars.get? name).isSome then vars else vars ++ [(name, value)]

/-! ### The environment of a process -/

/-- The entries of an environment, each ended by a zero byte. -/
def entries : List UInt8 → List (List UInt8)
  | [] => []
  | b :: bs =>
    if b == 0 then [] :: entries bs
    else match entries bs with
      | [] => [[b]]
      | entry :: rest => (b :: entry) :: rest

/-- The variable that an entry `NAME=value` says; an equals sign in front belongs to the name. -/
def ofEntry? (entry : List UInt8) : Option (String × String) := do
  let cs := (← String.fromUTF8? ⟨entry.toArray⟩).toList
  let c ← cs.head?
  let name := c :: cs.tail.takeWhile (· != '=')
  if name.length < cs.length then
    pure (String.ofList name, String.ofList (cs.drop (name.length + 1)))
  else none

/-- The variables of an environment; an entry that is no text is left out. -/
def ofEnvironment (bytes : List UInt8) : Variables := (entries bytes).filterMap ofEntry?

/-! ### Lines -/

/-- Where in a line a character stands. -/
inductive Spot
  | plain
  | space
  | escape
  | single
  | singleEscape
  | double
  | doubleEscape
  | comment
  deriving DecidableEq, Repr

/-- The spot after a character. -/
def Spot.after (spot : Spot) (c : Char) : Spot :=
  match spot with
  | plain | space =>
    if c == '\\' then escape
    else if c == '"' then double
    else if c == '\'' then single
    else if spot == plain && Letter.isBlank c && c != '\n' && c != '\r' then space
    else plain
  | escape => plain
  | double => if c == '\\' then doubleEscape else if c == '"' then plain else double
  | doubleEscape => double
  | single => if c == '\\' then singleEscape else if c == '\'' then plain else single
  | singleEscape => single
  | comment => comment

/-- The spot at the end of some characters, and the characters before a comment. -/
def scan (spot : Spot) : List Char → Spot × List Char
  | [] => (spot, [])
  | c :: cs =>
    if spot == .space && c == '#' then (.comment, [])
    else
      let (last, kept) := scan (spot.after c) cs
      (last, c :: kept)

/-- A text cut after every line feed. -/
def physicalLines : List Char → List (List Char)
  | [] => []
  | c :: cs =>
    match physicalLines cs with
    | [] => [[c]]
    | line :: rest => if c == '\n' then [c] :: line :: rest else (c :: line) :: rest

/-- Characters without a line break at the end. -/
def dropLineBreak (cs : List Char) : List Char :=
  match cs.reverse with
  | '\n' :: '\r' :: rest => rest.reverse
  | '\n' :: rest => rest.reverse
  | _ => cs

/-- The lines of a file, where one that ends inside quotes goes on with the next. Nothing stands for
a line that never ends. -/
def logicalLines (spot : Spot) (buffer : List Char) : List (List Char) → List (Option (List Char))
  | [] => if spot == .plain then [] else [none]
  | line :: rest =>
    let whole := buffer ++ line
    if (whole.dropWhile Letter.isBlank).head? == some '#' then
      some [] :: logicalLines .plain [] rest
    else match scan spot line with
      | (.plain, _) => some (dropLineBreak whole) :: logicalLines .plain [] rest
      | (.comment, kept) => some (buffer ++ kept) :: logicalLines .plain [] rest
      | (spot, _) => logicalLines spot whole rest

/-! ### Values -/

/-- Whether the name of another variable is under way. -/
inductive Naming
  | none
  | bare
  | braced
  deriving DecidableEq, Repr

/-- A value under way. -/
structure Value where
  inSingle : Bool := false
  inDouble : Bool := false
  isEscaped : Bool := false
  /-- Only a comment may come. -/
  isEnding : Bool := false
  naming : Naming := .none
  name : List Char := []
  out : List Char := []

namespace Value

variable (value? : String → Option String)

/-- The value with that of the named variable added. -/
def substituted (v : Value) : Value :=
  let text := (value? (String.ofList v.name)).getD ""
  { v with name := [], naming := .none, out := v.out ++ text.toList }

/-- The value with a character added. -/
def push (v : Value) (c : Char) : Value := { v with out := v.out ++ [c] }

/-- The value after a character while a name is under way. -/
def afterInName (v : Value) (c : Char) : Value :=
  if Letter.isWordChar c then { v with name := v.name ++ [c] }
  else if v.naming == .braced then
    if c == '\x7d' then v.substituted value? else { v with name := v.name ++ [c] }
  else if c == '\x7b' && v.name.isEmpty then { v with naming := .braced }
  else if c == '$' then { v.substituted value? with naming := .bare }
  else (v.substituted value?).push c

/-- The value after an escaped character. -/
def afterEscape? (v : Value) (c : Char) : Option Value :=
  if ['\\', '\'', '"', '$', ' '].contains c then some ({ v with isEscaped := false }.push c)
  else if c == 'n' then some ({ v with isEscaped := false }.push '\n')
  else none

/-- The value after a character that nothing else lays claim to. -/
def afterPlain (v : Value) (c : Char) : Value :=
  if c == '$' then { v with naming := .bare }
  else if c == '\\' then { v with isEscaped := true }
  else if v.inDouble then if c == '"' then { v with inDouble := false } else v.push c
  else if c == '\'' then { v with inSingle := true }
  else if c == '"' then { v with inDouble := true }
  else if c == ' ' || c == '\t' then { v with isEnding := true }
  else v.push c

/-- The value that characters say, up to a comment; nothing when they are broken. -/
def read? (v : Value) : List Char → Option Value
  | [] => some v
  | c :: cs =>
    if v.isEnding then
      if c == ' ' || c == '\t' then read? v cs else if c == '#' then some v else none
    else if v.isEscaped then (v.afterEscape? c).bind fun v => read? v cs
    else if v.inSingle then
      read? (if c == '\'' then { v with inSingle := false } else v.push c) cs
    else if v.naming != .none then read? (v.afterInName value? c) cs
    else read? (v.afterPlain c) cs

/-- The text of a value; nothing when quotes or braces are left open. -/
def text? (cs : List Char) : Option String :=
  match read? value? {} cs with
  | none => none
  | some v =>
    if v.naming == .braced || v.inSingle || v.inDouble then none
    else some (String.ofList (v.substituted value?).out)

end Value

/-! ### Assignments -/

/-- Skips blanks. -/
def skipBlanks (cs : List Char) : List Char := cs.dropWhile Letter.isBlank

/-- A name in front, and the rest. -/
def name? (cs : List Char) : Option (String × List Char) :=
  match cs with
  | [] => none
  | c :: _ =>
    if Letter.isAsciiLetter c || c == '_' then
      let isPart (c : Char) : Bool :=
        Letter.isAsciiLetter c || Letter.isAsciiDigit c || c == '_' || c == '.'
      some (String.ofList (cs.takeWhile isPart), cs.dropWhile isPart)
    else none

/-- The rest after an equals sign. -/
def afterEquals? : List Char → Option (List Char)
  | '=' :: cs => some cs
  | _ => none

/-- The name before an equals sign, and the rest after it. `export` may stand in front. -/
def target? (cs : List Char) : Option (String × List Char) := do
  let (name, rest) ← name? cs
  let rest := skipBlanks rest
  if name == "export" then
    match afterEquals? rest with
    | some rest => pure (name, rest)
    | none =>
      let (name, rest) ← name? rest
      pure (name, ← afterEquals? (skipBlanks rest))
  else pure (name, ← afterEquals? rest)

/-- What a line says. -/
inductive Assignment
  | nothing
  | assign (name : String) (value : String)
  | broken
  deriving DecidableEq, Repr

/-- What a line says, given the values of other variables. -/
def assignment (value? : String → Option String) (line : List Char) : Assignment :=
  let cs := skipBlanks (line.reverse.dropWhile Letter.isBlank).reverse
  if cs.isEmpty || cs.head? == some '#' then .nothing
  else match target? cs with
    | none => .broken
    | some (name, rest) =>
      let rest := skipBlanks rest
      if rest.isEmpty || rest.head? == some '#' then .assign name ""
      else match Value.text? value? rest with
        | some value => .assign name value
        | none => .broken

/-- Adds the variables of some lines, up to the first broken one. `said` holds what the lines before
said, whether it was added or not. -/
def addLines (vars said : Variables) : List (Option (List Char)) → Variables
  | [] => vars
  | none :: _ => vars
  | some line :: rest =>
    match assignment (fun name => (vars.get? name).or (said.get? name)) line with
    | .nothing => addLines vars said rest
    | .broken => vars
    | .assign name value => addLines (vars.add name value) ((name, value) :: said) rest

/-- Adds the variables of a file. -/
def addFile (vars : Variables) (text : String) : Variables :=
  let cs := match text.toList with
    | '\ufeff' :: cs => cs
    | cs => cs
  addLines vars [] (logicalLines .plain [] (physicalLines cs))

end Variables

end Scaffold
