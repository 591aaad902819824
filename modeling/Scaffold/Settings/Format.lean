/-
  Scaffold/Settings/Format.lean
  =============================
  **The formats of settings files.**

  The ending of a file's name tells its format. Whatever the format, the file holds one table; a
  byte order mark in front of it does not count, and of several fields of one name the last does.
-/
import Scaffold.Data.Ini
import Scaffold.Data.Json
import Scaffold.Data.Json5
import Scaffold.Data.Ron
import Scaffold.Data.Toml
import Scaffold.Data.Yaml
import Scaffold.Path

namespace Scaffold.Settings

open Scaffold

/-- A format of settings files. -/
inductive Format
  | toml
  | json
  | yaml
  | ini
  | ron
  | json5
  deriving DecidableEq, Repr

namespace Format

/-- The endings of file names, in the order in which they are tried. -/
def endings : List (String × Format) :=
  [("toml", toml), ("json", json), ("yaml", yaml), ("yml", yaml), ("ini", ini), ("ron", ron),
   ("json5", json5)]

/-- The format of the file at a path. -/
def ofPath? (path : String) : Option Format :=
  (Path.extension? path).bind fun ending => endings.lookup ending

/-- The paths that a settings file may be meant by: the path itself, else with an ending added. A
path that ends in a slash means hidden files in that directory. -/
def candidates (path : String) : List String :=
  let base := if Text.endsWith path "/" then path ++ ".placeholder" else path
  path :: endings.map fun (ending, _) => base ++ "." ++ ending

/-! ### Reading -/

/-- How deep the lists and tables of a JSON file may be nested. -/
def nesting : Nat := 127

/-- Whether JSON with the value can be read: nothing in it is garbled or beyond every double. -/
def isReadable : Data → Bool
  | .garbled => false
  | .real value => value.isFinite
  | _ => true

/-- Whether a whole number fits 64 bits. -/
def isShort : Data → Bool
  | .integer n => Literal.isShort n
  | _ => true

/-- The value that the text of a file says. -/
def value? (f : Format) (s : String) : Option Data :=
  match f with
  | toml => (Toml.read? s).filter (·.everywhere isShort)
  | json => (Json.read? s).filter fun d => d.everywhere isReadable && d.depth ≤ nesting
  | yaml => Yaml.read? s
  | ini => Ini.read? s
  | ron => Ron.read? s
  | json5 => Json5.read? s

/-- The fields that the text of a file says. -/
def fields? (f : Format) (s : String) : Option (List (String × Data)) :=
  match (f.value? (Text.dropMark s)).map Data.lastFields with
  | some (.table fields) => some fields
  | _ => none

end Format

end Scaffold.Settings
