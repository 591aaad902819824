/-
  Scaffold/Data/Yaml/Node.lean
  ============================
  **From the tokens of YAML to its value.**

  A text without quotes and without a tag says a number, a truth value or null when it is spelled
  like one. The name of a field is a text or the spelling of a number or a truth value, and occurs
  once in its table. A name that a value was given stands for that value later on.
-/
import Scaffold.Data
import Scaffold.Data.Literal
import Scaffold.Data.Yaml.Token

namespace Scaffold.Yaml

open Scaffold

/-! ### Single values -/

/-- The spellings of null. -/
def nulls : List String := ["", "~", "null", "Null", "NULL"]

/-- The spellings of the truth values. -/
def truths : List (String × Bool) :=
  [("true", true), ("True", true), ("TRUE", true), ("false", false), ("False", false),
   ("FALSE", false)]

/-- The spellings of what is beyond all numbers. -/
def endless : List String :=
  [".inf", ".Inf", ".INF", "+.inf", "+.Inf", "+.INF", "-.inf", "-.Inf", "-.INF", ".nan", ".NaN",
   ".NAN"]

/-- The whole number that a text is spelled like, when it fits 64 bits. -/
def whole? (cs : List Char) : Option Int :=
  (match cs with
    | '0' :: 'x' :: cs => Literal.whole? 16 cs
    | '0' :: 'o' :: cs => Literal.whole? 8 cs
    | '+' :: cs => Literal.whole? 10 cs
    | cs => Literal.whole? 10 cs).filter Literal.isShort

/-- The number that a text is spelled like; it has a digit. What is beyond all numbers has a
spelling but no value. -/
def real? (cs : List Char) : Option Data :=
  if endless.contains (String.ofList cs) then some .garbled else (Literal.real? cs).map .real

/-- What a text without quotes and without a tag says. -/
def plainValue (cs : List Char) : Data :=
  let s := String.ofList cs
  if nulls.contains s then .null
  else match truths.lookup s, whole? cs, real? cs with
    | some b, _, _ => .bool b
    | none, some n, _ => .integer n
    | none, none, some d => d
    | none, none, none => .text s

/-- What stands before the tags of the format itself. -/
def ownTags : String := "tag:yaml.org,2002:"

/-- What a text without quotes says under a tag of the format itself; null when it is not spelled
like that. -/
def taggedValue (suffix : String) (cs : List Char) : Data :=
  let s := String.ofList cs
  match suffix with
  | "bool" => if s == "true" then .bool true else if s == "false" then .bool false else .null
  | "int" => (((Literal.whole? 10 cs).filter Literal.isShort).map .integer).getD .null
  | "float" => (real? cs).getD .null
  | "null" => .null
  | _ => .text s

/-! ### Nodes -/

/-- A value, and its spelling when it is a single one. -/
structure Node where
  value : Data
  spelling : String := ""
  deriving Inhabited

/-- The node without characters. -/
def Node.empty : Node := ⟨.null, "~"⟩

/-- The node that a text is, with the handle and the rest of its tag. -/
def Node.ofText (isPlain : Bool) (tag : Option (String × String)) (cs : List Char) : Node :=
  let s := String.ofList cs
  let value : Data := match isPlain, tag with
    | false, _ => .text s
    | true, none => plainValue cs
    | true, some (handle, suffix) => if handle == ownTags then taggedValue suffix cs else .text s
  ⟨value, s⟩

/-- The sorts of names that a field can have. -/
inductive NameSort
  | text
  | integer
  | bool
  | real
  deriving DecidableEq, Repr

/-- The name of a field. -/
abbrev Name := NameSort × String

/-- The name that a node is. -/
def Node.name? (n : Node) : Option Name :=
  match n.value with
  | .text s => some (.text, s)
  | .integer n => some (.integer, toString n)
  | .bool b => some (.bool, if b then "true" else "false")
  | .real _ | .garbled => some (.real, n.spelling)
  | _ => none

/-! ### Documents -/

/-- A document under way: the tokens that are left, the names that nodes have got, in order, and
what the handles of tags stand for. A name whose node is not finished stands for null. -/
structure Reading where
  rest : List Token
  named : Array (String × Node) := #[]
  handles : List (String × String) := []

/-- A step of reading a document. -/
abbrev Read := StateT Reading Option

namespace Read

/-- The next token, which stays. -/
def peek? : Read (Option Token) := return (← get).rest.head?

/-- Skips a token. -/
def skip : Read Unit := modify fun r => { r with rest := r.rest.drop 1 }

/-- Takes a token when it is next; tells whether it was. -/
def takes (token : Token) : Read Bool := do
  if (← peek?) == some token then
    skip
    pure true
  else pure false

/-- Takes a token. -/
def take (token : Token) : Read Unit := do guard (← takes token)

/-- The node that a name stands for: the one that got it last. -/
def named? (name : String) : Read (Option Node) :=
  return (← get).named.toList.reverse.lookup name

/-- Keeps a finished node for the name that it has got; `place` is where the name stands among all
names. -/
def keep (place : Option Nat) (node : Node) : Read Unit :=
  match place with
  | none => pure ()
  | some n => modify fun r => { r with named := r.named.modify n fun (name, _) => (name, node) }

/-- The tag that a handle and the rest of it make. -/
def resolved (handle suffix : String) : Read (String × String) := do
  let known (s : String) : Read (Option String) := return (← get).handles.lookup s
  if handle == "!!" then pure ((← known "!!").getD ownTags, suffix)
  else if handle.isEmpty && suffix == "!" then pure ((← known "").getD "", suffix)
  else match ← known handle with
    | some start => pure (start, suffix)
    | none =>
      guard (!(2 ≤ handle.length && handle.toList.getLast? == some '!'))
      pure (handle, suffix)

/-- The name in front of a node, as its place among all names. -/
def anchor? : Read (Option Nat) := do
  match ← peek? with
  | some (.anchor name) =>
    skip
    let place := (← get).named.size
    modify fun r => { r with named := r.named.push (name, ⟨.null, ""⟩) }
    pure (some place)
  | _ => pure none

/-- The tag in front of a node. -/
def tag? : Read (Option (String × String)) := do
  match ← peek? with
  | some (.tag handle suffix) =>
    skip
    pure (some (← resolved handle suffix))
  | _ => pure none

/-- The name and the tag in front of a node, in any order. -/
def notes : Read (Option Nat × Option (String × String)) := do
  match ← anchor? with
  | some place => pure (some place, ← tag?)
  | none =>
    match ← tag? with
    | some tag => pure (← anchor?, some tag)
    | none => pure (none, none)

/-- Adds a field to those before, latest first. A second field of one name is refused. -/
def addField (key value : Node) (fields : List (Name × Data)) : Read (List (Name × Data)) := do
  match key.name? with
  | none => failure
  | some name =>
    guard ((fields.lookup name).isNone)
    pure ((name, value.value) :: fields)

/-- The table with some fields, latest first. -/
def table (fields : List (Name × Data)) : Data :=
  .table (fields.reverse.map fun (name, d) => (name.2, d))

/-- Whether one of some tokens is next. -/
def isNext (tokens : List Token) : Read Bool := return (← peek?).any tokens.contains

/-- What ends the name or the value of a field outside of brackets. -/
def fieldEnds : List Token := [.key, .value, .blockEnd]

/-- A node of which there is nothing but a name or a tag. -/
def bare (isNamed : Bool) (tag : Option (String × String)) : Read Node := do
  guard (isNamed || tag.isSome)
  pure (Node.ofText true tag [])

mutual

/-- A node; `isBlock` tells that it may be without brackets, and `isField` that it is a part of a
field, so that the items of a list need not be further in. `fuel` bounds the steps. -/
def node : Nat → Bool → Bool → Read Node
  | 0, _, _ => failure
  | fuel + 1, isBlock, isField => do
    if let some (.alias name) ← peek? then
      skip
      match ← named? name with
      | none => failure
      | some found => return found
    let (place, tag) ← notes
    let result ← match ← peek? with
      | some .item =>
        if isField then
          pure ⟨.list (← items fuel [.item, .key, .value, .blockEnd]), ""⟩
        else bare place.isSome tag
      | some (.text isPlain cs) =>
        skip
        pure (Node.ofText isPlain tag cs)
      | some .listStart =>
        skip
        pure ⟨.list (← bracketItems fuel), ""⟩
      | some .tableStart =>
        skip
        pure ⟨table (← bracketFields fuel []), ""⟩
      | some .blockListStart =>
        guard isBlock
        skip
        let ds ← items fuel [.item, .blockEnd]
        take .blockEnd
        pure ⟨.list ds, ""⟩
      | some .blockTableStart =>
        guard isBlock
        skip
        pure ⟨table (← fields fuel []), ""⟩
      | _ => bare place.isSome tag
    keep place result
    pure result

/-- The items of a list outside of brackets, each of which may be empty before some tokens. -/
def items : Nat → List Token → Read (List Data)
  | 0, _ => failure
  | fuel + 1, ends => do
    if ← takes .item then
      let d ← if ← isNext ends then pure Node.empty else node fuel true false
      return d.value :: (← items fuel ends)
    pure []

/-- The fields of a table outside of brackets, after some others, up to its end. -/
def fields : Nat → List (Name × Data) → Read (List (Name × Data))
  | 0, _ => failure
  | fuel + 1, before => do
    if ← takes .blockEnd then return before
    let key ← if ← takes .key then
        if ← isNext fieldEnds then pure Node.empty else node fuel true true
      else do
        guard (← isNext [.value])
        pure Node.empty
    let value ← if ← takes .value then
        if ← isNext fieldEnds then pure Node.empty else node fuel true true
      else pure Node.empty
    fields fuel (← addField key value before)

/-- The items of a list up to its closing bracket. -/
def bracketItems : Nat → Read (List Data)
  | 0 => failure
  | fuel + 1 => do
    if ← takes .listEnd then return []
    let d ← if ← takes .key then do
        let key ← if ← isNext [.value, .comma, .listEnd] then pure Node.empty
          else node fuel false false
        let value ← if ← takes .value then
            if ← isNext [.comma, .listEnd] then pure Node.empty else node fuel false false
          else pure Node.empty
        pure (table (← addField key value []))
      else do pure (← node fuel false false).value
    if ← takes .comma then return d :: (← bracketItems fuel)
    take .listEnd
    pure [d]

/-- The fields of a table up to its closing brace, after some others. -/
def bracketFields : Nat → List (Name × Data) → Read (List (Name × Data))
  | 0, _ => failure
  | fuel + 1, before => do
    if ← takes .tableEnd then return before
    let after ← if ← isNext [.key, .value] then do
        let key ← if ← takes .key then
            if ← isNext [.value, .comma, .tableEnd] then pure Node.empty
            else node fuel false false
          else pure Node.empty
        let value ← if ← takes .value then
            if ← isNext [.comma, .tableEnd] then pure Node.empty else node fuel false false
          else pure Node.empty
        addField key value before
      else do addField (← node fuel false false) Node.empty before
    if ← takes .comma then return (← bracketFields fuel after)
    take .tableEnd
    pure after

end

/-! ### Whole texts -/

/-- The lines in front of a document; `fuel` bounds them. `hasVersion` tells that one of them was
about the version. -/
def directives (hasVersion : Bool) : Nat → Read Unit
  | 0 => failure
  | fuel + 1 => do
    match ← peek? with
    | some .version =>
      guard !hasVersion
      skip
      directives true fuel
    | some (.tagPrefix handle start) =>
      guard (((← get).handles.lookup handle).isNone)
      skip
      modify fun r => { r with handles := (handle, start) :: r.handles }
      directives hasVersion fuel
    | _ => pure ()

/-- Skips the signs after documents; `fuel` bounds them. -/
def ends : Nat → Read Unit
  | 0 => pure ()
  | fuel + 1 => do if ← takes .documentEnd then ends fuel

/-- The value of a text with one document; an empty table when there is none. -/
def document (fuel : Nat) : Read Data := do
  ends fuel
  if (← peek?).isNone then return .table []
  let before := (← get).rest.length
  directives false fuel
  let hasDirectives := (← get).rest.length < before
  let isMarked ← takes .documentStart
  guard (isMarked || !hasDirectives)
  let isEmpty := match ← peek? with
    | none | some .documentStart | some .documentEnd | some .version | some (.tagPrefix _ _) => true
    | _ => false
  let d ← if isMarked && isEmpty then pure Node.empty else node fuel true false
  ends fuel
  guard ((← peek?).isNone)
  pure d.value

end Read

/-- The value that the tokens of a text say. -/
def ofTokens? (tokens : List Token) : Option Data :=
  ((Read.document (3 * tokens.length + 3)).run { rest := tokens }).map (·.1)

end Scaffold.Yaml
