/-
  Scaffold/Data/Toml/Tables.lean
  ==============================
  **Which tables a TOML document may go on with.**

  A table comes about by a header of its own, by the header of a table below it, or by a name with
  dots in it. A header may open a table that so far only headers below it asked for. A name with
  dots goes through every table that no header has opened, and through the last table of a list of
  tables, but the table that gets its value has come about by such a name too. Values, lists and
  tables in braces are closed.
-/
import Scaffold.Data

namespace Scaffold.Toml

open Scaffold

/-- How a table came about. -/
inductive Origin
  | header
  /-- By the header of a table below it. -/
  | implied
  /-- By a name with dots in it. -/
  | dotted
  deriving DecidableEq, Repr

/-- An entry of a document under way. -/
inductive Node
  | closed (value : Data)
  | table (origin : Origin) (fields : List (String × Node))
  /-- A list of tables: the earlier ones, last first, and the one under way. -/
  | tables (earlier : List Node) (last : List (String × Node))

/-- The entries of a table under way. -/
abbrev Fields := List (String × Node)

/-- Changes the entry of a name, or adds one at the end. -/
def alter (name : String) (f : Option Node → Option Node) : Fields → Option Fields
  | [] => (f none).map fun node => [(name, node)]
  | (other, node) :: rest =>
    if other == name then (f (some node)).map fun node => (other, node) :: rest
    else (alter name f rest).map ((other, node) :: ·)

/-- Changes the table at the end of a path of headers, making the tables on the way. -/
def within (change : Fields → Option Fields) : List String → Fields → Option Fields
  | [], fields => change fields
  | name :: path, fields =>
    alter name (fun
      | none => (within change path []).map (.table .implied)
      | some (.table origin inner) => (within change path inner).map (.table origin)
      | some (.tables earlier last) => (within change path last).map (.tables earlier)
      | some (.closed _) => none) fields

/-- Adds a value under a name, which may have dots. `takesValues` tells whether the table at hand
may take the value itself: the tables on the way may have come about by any name but a header of
their own, the last one only by a name with dots. -/
def assignIn (value : Data) (takesValues : Bool) : List String → Fields → Option Fields
  | [], _ => none
  | [name], fields =>
    if takesValues then
      alter name (fun
        | none => some (.closed value)
        | some _ => none) fields
    else none
  | name :: path, fields =>
    alter name (fun
      | none => (assignIn value true path []).map (.table .dotted)
      | some (.table origin inner) =>
        if origin = .header then none
        else (assignIn value (origin = .dotted) path inner).map (.table origin)
      | some (.tables earlier last) => (assignIn value false path last).map (.tables earlier)
      | some (.closed _) => none) fields

/-- Adds a value to a table under a name, which may have dots. -/
def assign (path : List String) (value : Data) (fields : Fields) : Option Fields :=
  assignIn value true path fields

/-- Opens a table by its header. -/
def openTable (path : List String) (fields : Fields) : Option Fields :=
  match path.getLast? with
  | none => none
  | some name =>
    within (alter name fun
      | none => some (.table .header [])
      | some (.table .implied inner) => some (.table .header inner)
      | some _ => none) path.dropLast fields

/-- Opens the next table of a list by its header. -/
def openNext (path : List String) (fields : Fields) : Option Fields :=
  match path.getLast? with
  | none => none
  | some name =>
    within (alter name fun
      | none => some (.tables [] [])
      | some (.tables earlier last) => some (.tables (.table .header last :: earlier) [])
      | some _ => none) path.dropLast fields

/-! ### The finished document -/

mutual

/-- The value of an entry. -/
def Node.data : Node → Data
  | .closed value => value
  | .table _ fields => .table (dataOfFields fields)
  | .tables earlier last => .list ((dataOfNodes earlier).reverse ++ [.table (dataOfFields last)])

/-- The values of some entries. -/
def dataOfFields : List (String × Node) → List (String × Data)
  | [] => []
  | (name, node) :: rest => (name, node.data) :: dataOfFields rest

/-- The values of some tables. -/
def dataOfNodes : List Node → List Data
  | [] => []
  | node :: rest => node.data :: dataOfNodes rest

end

end Scaffold.Toml
