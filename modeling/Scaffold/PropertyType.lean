/-
  Scaffold/PropertyType.lean
  ==========================
  **Types of entity properties.**

  Each type has the name it is declared by, the C# keyword that generated code writes, and, where
  one can be made up, a literal for a key that no row of a fresh test database has.
-/
import Scaffold.Error

namespace Scaffold

/-- The meaning of a property's values. -/
inductive PropertyType
  | guid
  | string
  | int
  | long
  | decimal
  | double
  | bool
  | dateTime
  | dateOnly
  deriving DecidableEq, Repr

namespace PropertyType

/-- All types, in the order they are listed to the user. -/
def all : List PropertyType :=
  [guid, string, int, long, decimal, double, bool, dateTime, dateOnly]

/-- The name a type is declared by. -/
def name : PropertyType → String
  | guid => "guid"
  | string => "string"
  | int => "int"
  | long => "long"
  | decimal => "decimal"
  | double => "double"
  | bool => "bool"
  | dateTime => "datetime"
  | dateOnly => "dateonly"

/-- The type as generated C# code writes it. -/
def csharp : PropertyType → String
  | guid => "Guid"
  | string => "string"
  | int => "int"
  | long => "long"
  | decimal => "decimal"
  | double => "double"
  | bool => "bool"
  | dateTime => "DateTime"
  | dateOnly => "DateOnly"

/-- A key value that a fresh test database does not hold. The types without one have no test for a
missing record. -/
def badKey? : PropertyType → Option String
  | guid => some "Guid.NewGuid()"
  | string => some "\"badKey\""
  | int => some "84709321"
  | long => some "84709321L"
  | _ => none

/-- The other names a type may be declared by. -/
def aliases : List (String × PropertyType) :=
  [("uuid", guid), ("str", string), ("int32", int), ("int64", long), ("float64", double),
   ("boolean", bool), ("datetimeoffset", dateTime), ("date", dateOnly)]

/-- The type with exactly this name. -/
def ofName? (s : String) : Option PropertyType := all.find? (·.name == s)

/-- The type that a declaration names, without regard to surrounding blanks and ASCII case. -/
def parse (s : String) : Except DomainError PropertyType :=
  let wanted := Text.asciiLower (Text.trim s)
  match (ofName? wanted).or (aliases.lookup wanted) with
  | some type => .ok type
  | none => .error (.unknownPropertyType wanted)

end PropertyType

end Scaffold
