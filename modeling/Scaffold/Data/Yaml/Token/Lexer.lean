/-
  Scaffold/Data/Yaml/Token/Lexer.lean
  ===================================
  **From a YAML text to its tokens.**

  A token further to the right than what is around it begins a list or a table, one further to the
  left ends them. A name of a field shows only by the colon after it, so the lexer remembers where
  one may have begun and puts a token there later. Between brackets indentation says nothing, but
  everything stays right of what is around the brackets.
-/
import Scaffold.Data.Yaml.Text
import Scaffold.Data.Yaml.Token

namespace Scaffold.Yaml

open Scaffold

/-! ### State -/

/-- Where the name of a field may have begun. -/
structure PossibleKey where
  /-- Whether nothing else than a name can be there. -/
  isRequired : Bool
  /-- How many tokens come before it. -/
  before : Nat
  line : Nat
  column : Nat
  index : Nat

/-- An indentation. -/
structure Indent where
  column : Int
  /-- Whether a list or a table ends with it. -/
  isBlock : Bool

/-- A text under way. -/
structure Lexer where
  place : Cursor
  /-- The tokens so far, each with its column. -/
  tokens : Array (Token × Nat) := #[]
  /-- The indentation of what is under way, and those around it. -/
  indent : Int := -1
  around : List Indent := []
  /-- Whether the name of a field may begin. -/
  allowsKey : Bool := true
  /-- Where names may have begun, the innermost brackets first. -/
  keys : List (Option PossibleKey) := [none]
  /-- The brackets around, the innermost first: whether they are those of a list. -/
  brackets : List Bool := []
  /-- Where a colon needs no blank after it. -/
  tightAt : Option Nat := none
  deriving Inhabited

/-- A step of reading tokens. -/
abbrev Lex := StateT Lexer Option

namespace Lex

/-- How many brackets may be nested. -/
def nesting : Nat := 255

/-- How many characters the name of a field may have, outside of brackets. -/
def keyWidth : Nat := 1024

/-- Adds a token. -/
def push (token : Token) (column : Nat) : Lex Unit :=
  modify fun l => { l with tokens := l.tokens.push (token, column) }

/-- Puts a token in between. -/
def insert (before : Nat) (token : Token) (column : Nat) : Lex Unit :=
  modify fun l => { l with tokens := l.tokens.toList.insertIdx before (token, column) |>.toArray }

/-- Goes to a place. -/
def goTo (place : Cursor) : Lex Unit := modify fun l => { l with place }

/-- Goes so many characters on. -/
def advance (n : Nat) : Lex Unit := modify fun l => { l with place := l.place.after n }

/-- Says whether the name of a field may begin. -/
def allowKey (allowsKey : Bool) : Lex Unit := modify fun l => { l with allowsKey }

/-- Whether the place is between brackets. -/
def inBrackets : Lex Bool := return !(← get).brackets.isEmpty

/-- Skips blanks and a comment on the line. -/
def blanks : Lex Unit := do
  let (_, place) ← (← get).place.afterBlanks true
  goTo place

/-! ### Indentation -/

/-- Ends the lists and tables further in than a column. -/
def unindent (column : Int) : Nat → Lex Unit
  | 0 => pure ()
  | fuel + 1 => do
    let l ← get
    if !l.brackets.isEmpty || l.indent ≤ column then return
    match l.around with
    | [] => pure ()
    | outer :: around =>
      set { l with indent := outer.column, around }
      if outer.isBlock then push .blockEnd l.place.column
      unindent column fuel

/-- Ends what is further in than a column. -/
def endBlocks (column : Int) : Lex Unit := do unindent column ((← get).around.length + 1)

/-- Begins a list or a table at a column, unless it is under way; its token is put in between when a
number of tokens is given. -/
def beginBlock (column : Nat) (before : Option Nat) (token : Token) : Lex Unit := do
  if ← inBrackets then return
  modify fun l =>
    match l.around with
    | outer :: around =>
      if l.indent ≤ column && !outer.isBlock then { l with indent := outer.column, around } else l
    | [] => l
  let l ← get
  if l.indent < column then
    set { l with indent := column, around := ⟨l.indent, true⟩ :: l.around }
    match before with
    | some n => insert n token column
    | none => push token column

/-- Asks what comes next to be further in by one column at least. -/
def indentOne : Lex Unit := do
  if ← inBrackets then return
  modify fun l =>
    if l.around.head?.any (·.isBlock) then
      { l with indent := l.indent + 1, around := ⟨l.indent, false⟩ :: l.around }
    else l

/-- Asks for it no longer. -/
def undoIndentOne : Lex Unit :=
  modify fun l =>
    match l.around.dropWhile (!·.isBlock) with
    | around =>
      match (l.around.takeWhile (!·.isBlock)).getLast? with
      | some outer => { l with indent := outer.column, around }
      | none => l

/-! ### Names of fields -/

/-- Remembers that a name may begin here. -/
def saveKey : Lex Unit :=
  modify fun l =>
    if l.allowsKey then
      let isRequired :=
        l.brackets.isEmpty && l.indent == (l.place.column : Int) &&
          l.around.head?.any (·.isBlock)
      let key : PossibleKey :=
        { isRequired, before := l.tokens.size, line := l.place.line, column := l.place.column,
          index := l.place.index }
      { l with keys := some key :: l.keys.drop 1 }
    else l

/-- Forgets where a name may have begun; one that is required has to be there by now. -/
def dropKey : Lex Unit := do
  let l ← get
  guard (!(l.keys.headD none).any (·.isRequired))
  set { l with keys := none :: l.keys.drop 1 }

/-- Forgets names that are no longer possible: those of an earlier line, and those that are too
long. -/
def dropOldKeys : Lex Unit := do
  let l ← get
  if l.brackets.isEmpty then
    let isOld (key : PossibleKey) : Bool :=
      key.line < l.place.line || key.index + keyWidth < l.place.index
    guard (!l.keys.any fun key => key.any fun key => key.isRequired && isOld key)
    set { l with keys := l.keys.map fun (key : Option PossibleKey) => key.filter (!isOld ·) }

/-! ### Between tokens -/

/-- Skips blanks, line breaks and comments; `fuel` bounds them. A tab is no indentation. -/
def skip : Nat → Lex Unit
  | 0 => pure ()
  | fuel + 1 => do
    let l ← get
    match l.place.rest with
    | '\n' :: _ =>
      goTo l.place.nextLine
      if l.brackets.isEmpty then allowKey true
      skip fuel
    | '#' :: _ =>
      goTo l.place.atLineBreak
      skip fuel
    | c :: _ =>
      if c == '\t' && !l.around.isEmpty && l.place.isIndent && l.place.isLeftOf l.indent then
        blanks
        guard (atLineEnd (← get).place.rest)
        skip fuel
      else if isSpace c then
        advance 1
        skip fuel
    | [] => pure ()

/-- Skips to the next token. -/
def toNext : Lex Unit := do skip ((← get).place.rest.length + 1)

/-! ### Documents -/

/-- Ends everything under way. -/
def endAll : Lex Unit := do
  endBlocks (-1)
  dropKey
  allowKey false

/-- A mark between documents. -/
def mark (token : Token) : Lex Unit := do
  endAll
  let column := (← get).place.column
  advance 3
  push token column

/-- Takes the characters for which a test holds. -/
def takeWhile (p : Char → Bool) : Lex (List Char) := do
  let (cs, place) := (← get).place.afterWhile p
  goTo place
  pure cs

/-- Takes a character. -/
def take (c : Char) : Lex Unit := do
  guard ((← get).place.rest.head? == some c)
  advance 1

/-- Whether a character may stand in a handle or in the name of a directive. -/
def isWordPart (c : Char) : Bool :=
  Letter.isAsciiLetter c || Letter.isAsciiDigit c || c == '_' || c == '-'

/-- Whether a character may stand in the part of a tag after its handle, and in what it stands for
where brackets and `!` do no harm. -/
def isTagPart (isFree : Bool) (c : Char) : Bool :=
  (isWordPart c && c != '_') || "#;/?:@&=+$_.~*'()%".toList.contains c ||
    (isFree && "![],".toList.contains c)

/-- A number of a version. -/
def versionNumber : Lex Unit := do
  let ds ← takeWhile Letter.isAsciiDigit
  guard (!ds.isEmpty && ds.length ≤ 9)

/-- The handle of a tag: `!`, `!!` or `!name!`. -/
def handle (isDirective : Bool) : Lex String := do
  take '!'
  let cs ← takeWhile isWordPart
  if (← get).place.rest.head? == some '!' then
    advance 1
    pure (String.ofList ('!' :: cs ++ ['!']))
  else
    guard (!isDirective || cs.isEmpty)
    pure (String.ofList ('!' :: cs))

/-- A line with a directive. -/
def directive : Lex Unit := do
  endAll
  take '%'
  let name ← takeWhile isWordPart
  guard (!name.isEmpty && atGap (← get).place.rest)
  let token ← match String.ofList name with
    | "YAML" => do
      let _ ← takeWhile isSpace
      versionNumber
      take '.'
      versionNumber
      pure Token.version
    | "TAG" => do
      let _ ← takeWhile isSpace
      let handle ← handle true
      let _ ← takeWhile isSpace
      let start ← takeWhile (isTagPart true)
      guard (!start.isEmpty && atGap (← get).place.rest)
      pure (Token.tagPrefix handle (String.ofList start))
    | _ => do
      goTo (← get).place.atLineBreak
      pure (Token.tagPrefix "" "")
  blanks
  guard (atLineEnd (← get).place.rest)
  push token 0

/-! ### Signs -/

/-- An opening bracket. -/
def openBracket (isList : Bool) : Lex Unit := do
  saveKey
  indentOne
  let l ← get
  guard (l.brackets.length < nesting)
  set { l with
    keys := none :: l.keys, brackets := isList :: l.brackets, allowsKey := true,
    place := l.place.after 1 }
  blanks
  push (if isList then .listStart else .tableStart) l.place.column

/-- A closing bracket. -/
def closeBracket (isList : Bool) : Lex Unit := do
  dropKey
  modify fun l =>
    if l.brackets.isEmpty then l
    else { l with keys := l.keys.drop 1, brackets := l.brackets.drop 1 }
  allowKey false
  let column := (← get).place.column
  advance 1
  blanks
  modify fun l => if l.brackets.isEmpty then l else { l with tightAt := some l.place.index }
  push (if isList then .listEnd else .tableEnd) column

/-- The comma between items. -/
def comma : Lex Unit := do
  dropKey
  allowKey true
  let column := (← get).place.column
  advance 1
  blanks
  push .comma column

/-- Whether the last token, at the beginning of its line, belongs to the value after it. -/
def endsWithNote (l : Lexer) : Bool :=
  match l.tokens.back? with
  | some (.anchor _, 0) | some (.tag _ _, 0) => true
  | _ => false

/-- The sign before an item. -/
def item : Lex Unit := do
  guard !(← inBrackets)
  let l ← get
  guard l.allowsKey
  guard (!(endsWithNote l && l.place.column = 0 && -1 < l.indent))
  advance 1
  beginBlock l.place.column none .blockListStart
  let (found, place) ← (← get).place.afterBlanks true
  let startsItem : Bool := match place.rest with
    | '-' :: rest => atGap rest
    | _ => false
  guard (!(found.hasTab && startsItem))
  goTo place
  if place.rest.head?.any fun c => c == '\n' || isBracket c then indentOne
  dropKey
  allowKey true
  push .item l.place.column

/-- Skips spaces, line breaks and comments, but no tabs; `fuel` bounds them. -/
def skipSpaces : Nat → Lex Unit
  | 0 => pure ()
  | fuel + 1 => do
    let l ← get
    match l.place.rest with
    | ' ' :: _ =>
      advance 1
      skipSpaces fuel
    | '\n' :: _ =>
      goTo l.place.nextLine
      if l.brackets.isEmpty then allowKey true
      skipSpaces fuel
    | '#' :: _ =>
      goTo l.place.atLineBreak
      skipSpaces fuel
    | _ => pure ()

/-- The sign before a name that may be any value. -/
def key : Lex Unit := do
  let l ← get
  let isBlock := l.brackets.isEmpty
  if isBlock then
    guard l.allowsKey
    beginBlock l.place.column none .blockTableStart
  dropKey
  allowKey isBlock
  advance 1
  let before := (← get).place
  skipSpaces (before.rest.length + 1)
  let place := (← get).place
  guard (before.index < place.index && place.rest.head? != some '\t')
  push .key l.place.column

/-- The colon before a value. A name that may have begun earlier has done so. -/
def colon : Lex Unit := do
  let l ← get
  let isBlock := l.brackets.isEmpty
  advance 1
  let place := (← get).place
  if place.rest.head? == some '\t' then
    let (found, place) ← place.afterBlanks true
    guard (found.hasSpace || !place.rest.head?.any isWordPart)
    goTo place
  match l.keys.headD none with
  | some name =>
    guard (!(l.brackets.headD false && name.line < l.place.line))
    insert name.before .key name.column
    beginBlock name.column (some name.before) .blockTableStart
    indentOne
    modify fun l => { l with keys := none :: l.keys.drop 1 }
    allowKey false
  | none =>
    if isBlock then
      guard l.allowsKey
      beginBlock l.place.column none .blockTableStart
    indentOne
    allowKey isBlock
  push .value l.place.column

/-! ### Names and tags of values -/

/-- A name of a value, where it is given or used. -/
def nameOfValue (isAlias : Bool) : Lex Unit := do
  saveKey
  allowKey false
  let column := (← get).place.column
  advance 1
  let cs ← takeWhile fun c => !isGap c && !isBracket c && c != '\ufeff'
  guard (!cs.isEmpty)
  let name := String.ofList cs
  push (if isAlias then .alias name else .anchor name) column

/-- The handle and the rest of a tag. -/
def tagParts : Lex (String × String) := do
  if (← get).place.rest[1]? == some '<' then
    advance 2
    let suffix ← takeWhile (isTagPart true)
    take '>'
    pure ("", String.ofList suffix)
  else
    let handle ← handle false
    let suffix := String.ofList (← takeWhile (isTagPart false))
    if 2 ≤ handle.length && Text.endsWith handle "!" then
      guard (!suffix.isEmpty)
      pure (handle, suffix)
    else
      let suffix := String.ofList (handle.toList.drop 1) ++ suffix
      pure (if suffix.isEmpty then ("", "!") else ("!", suffix))

/-- A tag of a value. -/
def tag : Lex Unit := do
  saveKey
  allowKey false
  let l ← get
  let (handle, suffix) ← tagParts
  let rest := (← get).place.rest
  guard (atGap rest || (!l.brackets.isEmpty && rest.head?.any isBracket))
  push (.tag handle suffix) l.place.column

/-! ### Texts -/

/-- A text between quotes. On its line nothing follows it but what may follow a value. -/
def quoted : Lex Unit := do
  saveKey
  allowKey false
  let l ← get
  let isBlock := l.brackets.isEmpty
  let (cs, place) ← Yaml.quoted l.indent l.place
  goTo place
  blanks
  let place := (← get).place
  let isEnded : Bool := match place.rest with
    | [] => true
    | c :: _ =>
      c == '\n' || (c == ':' && (!isBlock || place.line == l.place.line)) ||
        (!isBlock && (c == ',' || c == ']' || c == '\x7d'))
  guard isEnded
  toNext
  modify fun l => { l with tightAt := some l.place.index }
  push (.text false cs) l.place.column

/-- A text without quotes. -/
def plain : Lex Unit := do
  saveKey
  allowKey false
  undoIndentOne
  let l ← get
  let (cs, place) ← Yaml.plain (!l.brackets.isEmpty) (l.indent + 1) l.place
  goTo place
  if place.isIndent then allowKey true
  push (.text true cs) l.place.column

/-- A text as a block of lines. -/
def block (isLiteral : Bool) : Lex Unit := do
  saveKey
  allowKey true
  advance 1
  undoIndentOne
  let l ← get
  let (cs, place) ← Yaml.block isLiteral l.indent l.place
  goTo place
  push (.text false cs) l.place.column

/-! ### All tokens -/

/-- The token that begins with a character at the place. -/
def token (c : Char) (rest : List Char) : Lex Unit := do
  let l ← get
  let isBlock := l.brackets.isEmpty
  let isTight := l.tightAt == some l.place.index
  match c with
  | '[' => openBracket true
  | '\x7b' => openBracket false
  | ']' => closeBracket true
  | '\x7d' => closeBracket false
  | ',' => comma
  | '*' => nameOfValue true
  | '&' => nameOfValue false
  | '!' => tag
  | '\'' | '"' => quoted
  | '%' | '@' | '\x60' => failure
  | '-' => if atGap rest then item else plain
  | '?' => if atGap rest then key else plain
  | ':' =>
    if atGap rest || (!isBlock && (rest.head?.any isBracket || isTight)) then colon else plain
  | '|' => if isBlock then block true else plain
  | '>' => if isBlock then block false else plain
  | _ => plain

/-- Reads the next token; tells whether there was one. -/
def next : Lex Bool := do
  toNext
  dropOldKeys
  endBlocks (← get).place.column
  let l ← get
  match l.place.rest with
  | [] =>
    guard (!l.keys.any fun key => key.any (·.isRequired))
    endBlocks (-1)
    pure false
  | c :: rest =>
    if l.place.column = 0 && c == '%' then directive
    else if l.place.column = 0 && startsMark '-' (c :: rest) then mark .documentStart
    else if l.place.column = 0 && startsMark '.' (c :: rest) then
      mark .documentEnd
      blanks
      guard (atLineEnd (← get).place.rest)
    else
      guard (!l.place.isLeftOf l.indent)
      token c rest
    pure true

/-- Reads all tokens; `fuel` bounds them. -/
def all : Nat → Lex Unit
  | 0 => failure
  | fuel + 1 => do
    if ← next then all fuel

end Lex

/-- The tokens of a text. -/
def Token.scan? (s : String) : Option (List Token) :=
  let place := Cursor.ofText s
  ((Lex.all (place.rest.length + 2)).run { place }).map fun (_, l) =>
    l.tokens.toList.map (·.1)

end Scaffold.Yaml
