/-
  Scaffold/Settings/Place.lean
  ============================
  **Where a setting goes.**

  The name of a setting is a path through tables and lists: `defaults.project` is a field of a
  field, `defaults[3]` an item of a list, `defaults[-1]` its last one. What is not there is made,
  and what is in the way gives way. A name that is no path is the name of a field as it stands.
-/
import Scaffold.Data.Literal
import Scaffold.Data

namespace Scaffold.Settings

open Scaffold

/-- A step down into a value. -/
inductive Step
  | field (name : String)
  /-- An item, counted from zero; a negative number counts from the end. -/
  | item (index : Int)
  deriving DecidableEq, Repr

/-- The steps to a setting. -/
abbrev Place := List Step

namespace Place

/-! ### Reading -/

open Reader

/-- Whether a character may stand in a name. -/
def isNamePart (c : Char) : Bool :=
  Letter.isAsciiLetter c || Letter.isAsciiDigit c || c == '_' || c == '-'

/-- A name. -/
def name : Reader String := do
  let cs ← takeWhile isNamePart
  guard (!cs.isEmpty)
  pure (String.ofList cs)

/-- Skips spaces and tabs. -/
def spaces : Reader Unit := do
  let _ ← takeWhile fun c => c == ' ' || c == '\t'

/-- The number of an item after the opening bracket. -/
def index : Reader Int := do
  spaces
  let isNegative ← takes "-"
  let ds ← takeWhile Letter.isAsciiDigit
  guard (!ds.isEmpty)
  spaces
  char ']'
  let n := Literal.signed isNegative (ofDigits 10 ds)
  guard (Literal.isShort n)
  pure n

/-- The steps after the first; `fuel` bounds them. -/
def moreSteps : Nat → Reader Place
  | 0 => failure
  | fuel + 1 => do
    if ← takes "." then
      let step := Step.field (← name)
      return step :: (← moreSteps fuel)
    if ← takes "[" then
      let step := Step.item (← index)
      return step :: (← moreSteps fuel)
    pure []

/-- The place that the name of a setting stands for. -/
def ofName (s : String) : Place :=
  let cs := s.toList
  let path : Reader Place := do
    let step := Step.field (← name)
    return step :: (← moreSteps (cs.length + 1))
  (readAll? path cs).getD [.field s]

/-! ### Values at places -/

/-- A list in which there is an item of the given number, and where it is. New items are null; those
for a negative number come in front. -/
def reaching (index : Int) (items : List Data) : List Data × Nat :=
  let n := index.natAbs
  if 0 ≤ index then (items ++ List.replicate (n + 1 - items.length) .null, n)
  else if n ≤ items.length then (items, items.length - n)
  else (List.replicate (n - items.length) .null ++ items, 0)

/-- Changes the value at a place. -/
def change (f : Data → Data) : Place → Data → Data
  | [], d => f d
  | .field name :: rest, d =>
    .table (Data.put name (change f rest ((d.fields.lookup name).getD .null)) d.fields)
  | .item index :: rest, d =>
    let (items, n) := reaching index d.items
    .list (items.modify n (change f rest))

mutual

/-- A value laid over another: the fields of a table are laid over those that are there, all else
takes the place of what was there. -/
def laidOver (old : Data) : Data → Data
  | .table fields =>
    if fields.isEmpty && !old.isNull then old else .table (fieldsLaidOver old.fields fields)
  | d => d

/-- Fields laid over others, one after the other. -/
def fieldsLaidOver (old : List (String × Data)) : List (String × Data) → List (String × Data)
  | [] => old
  | (name, d) :: rest =>
    fieldsLaidOver (Data.put name (laidOver ((old.lookup name).getD .null) d) old) rest

end

/-- A layer of settings, by their names, laid over others. -/
def layered (old : Data) (layer : List (String × Data)) : Data :=
  layer.foldl (fun old (name, d) => change (laidOver · d) (ofName name) old) old

end Place

end Scaffold.Settings
