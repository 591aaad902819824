/-
  Scaffold/Data.lean
  ==================
  **Values of data files, and records read from them.**

  `Data` is what a manifest or a settings file holds, whatever its format. Fields of a table keep
  their order, and a name may occur twice where the format lets it.

  A record is read by the list of its fields: from a table by name, where fields the record does not
  know are ignored and none it knows may occur twice, or from a list by position.
-/
import Scaffold.Data.Real

namespace Scaffold

/-- A value of a data file. -/
inductive Data
  | null
  | bool (value : Bool)
  | integer (value : Int)
  | real (value : Real)
  | text (value : String)
  /-- A date, a time or both, in the one spelling that is shown. -/
  | moment (shown : String)
  | list (items : List Data)
  | table (fields : List (String × Data))
  /-- A value that is well formed but cannot be read, such as a text with half of a surrogate pair,
  or a table with such a name. -/
  | garbled
  deriving Inhabited

namespace Data

/-! ### Shape -/

mutual

/-- How deep lists and tables are nested. -/
def depth : Data → Nat
  | list items => 1 + depthOfItems items
  | table fields => 1 + depthOfFields fields
  | _ => 0

/-- The greatest depth of some values. -/
def depthOfItems : List Data → Nat
  | [] => 0
  | d :: ds => max d.depth (depthOfItems ds)

/-- The greatest depth of some fields. -/
def depthOfFields : List (String × Data) → Nat
  | [] => 0
  | (_, d) :: ds => max d.depth (depthOfFields ds)

end

mutual

/-- Whether a test holds for the value and for every value in it. -/
def everywhere (p : Data → Bool) : Data → Bool
  | list items => p (list items) && everywhereInItems p items
  | table fields => p (table fields) && everywhereInFields p fields
  | d => p d

/-- Whether a test holds everywhere in some values. -/
def everywhereInItems (p : Data → Bool) : List Data → Bool
  | [] => true
  | d :: ds => d.everywhere p && everywhereInItems p ds

/-- Whether a test holds everywhere in some fields. -/
def everywhereInFields (p : Data → Bool) : List (String × Data) → Bool
  | [] => true
  | (_, d) :: ds => d.everywhere p && everywhereInFields p ds

end

/-! ### Single values -/

/-- The text that a value is. -/
def text? : Data → Option String
  | text value => some value
  | _ => none

/-- The truth value that a value is. -/
def bool? : Data → Option Bool
  | bool value => some value
  | _ => none

/-- The values that a list is made of. -/
def list? : Data → Option (List Data)
  | list items => some items
  | _ => none

/-- The fields that a value has; none unless it is a table. -/
def fields : Data → List (String × Data)
  | table fields => fields
  | _ => []

/-- The items that a value has; none unless it is a list. -/
def items : Data → List Data
  | list items => items
  | _ => []

/-- Whether a value is null. -/
def isNull : Data → Bool
  | null => true
  | _ => false

/-- A text that may be left out, or be null: nothing, or the text. A value of another type is
refused. -/
def optionalText? : Option Data → Option (Option String)
  | none | some null => some none
  | some d => d.text?.map some

/-! ### Fields -/

/-- Gives a field its value, in place of the one it had. -/
def put (name : String) (value : Data) : List (String × Data) → List (String × Data)
  | [] => [(name, value)]
  | (other, old) :: rest =>
    if other == name then (name, value) :: rest else (other, old) :: put name value rest

mutual

/-- The value with only the last of several fields of one name. -/
def lastFields : Data → Data
  | list items => list (lastFieldsOfItems items)
  | table fields => table (lastFieldsOfFields [] fields)
  | d => d

/-- The same for the items of a list. -/
def lastFieldsOfItems : List Data → List Data
  | [] => []
  | d :: ds => lastFields d :: lastFieldsOfItems ds

/-- The same for the fields of a table, added to those before. -/
def lastFieldsOfFields (before : List (String × Data)) :
    List (String × Data) → List (String × Data)
  | [] => before
  | (name, d) :: rest => lastFieldsOfFields (put name (lastFields d) before) rest

end

/-! ### Records -/

/-- What a record asks of one of its fields. -/
inductive Presence
  | required
  /-- The field may be missing from a table, but not from a list. -/
  | optional
  /-- The field may be missing. -/
  | defaulted
  deriving DecidableEq, Repr

/-- A field of a record: what is asked of it, and the names it goes by. -/
structure Field where
  presence : Presence
  names : List String
  deriving DecidableEq, Repr

/-- The value of a field in a table: nothing when it is missing and may be. Two occurrences are
refused. -/
def Field.inTable? (f : Field) (fields : List (String × Data)) : Option (Option Data) :=
  match fields.filter fun entry => f.names.contains entry.1 with
  | [] => if f.presence = .required then none else some none
  | [(_, value)] => some (some value)
  | _ => none

/-- The values of a record's fields in a list. `strict` refuses values beyond the last field. -/
def inList? (strict : Bool) : List Field → List Data → Option (List (Option Data))
  | [], rest => if strict && !rest.isEmpty then none else some []
  | f :: fs, [] =>
    if f.presence = .defaulted then (inList? strict fs []).map (none :: ·) else none
  | _ :: fs, value :: rest => (inList? strict fs rest).map (some value :: ·)

/-- The values of a record's fields, in the order of `fields`. `strict` tells whether a list may go
on after the last field. A moment counts as a table without any field that a record knows. -/
def record? (strict : Bool) (fields : List Field) : Data → Option (List (Option Data))
  | table entries => fields.mapM (·.inTable? entries)
  | moment _ => fields.mapM (·.inTable? [])
  | list items => inList? strict fields items
  | _ => none

end Data

end Scaffold
