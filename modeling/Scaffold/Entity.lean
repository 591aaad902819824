/-
  Scaffold/Entity.lean
  ====================
  **Entities and the drafts they are built from.**

  An `Entity` is what every generated file is derived from. It comes out of a `Draft`, the
  description as the user gave it, through `Draft.build`, which puts every name into its PascalCase
  form and refuses a draft with a cause from `DomainError`:

    * the name, the plural, the lambda parameter and every property and parent name are identifiers;
    * the lambda parameter is neither a C# keyword nor a local that generated tests declare;
    * no two properties share a name, and exactly one of them is the primary key.

  Foreign keys give the entity its relationships, in declaration order, each with the variable that
  a generated test holds the seeded parent in.
-/
import Scaffold.Name
import Scaffold.PropertyType

namespace Scaffold

/-! ### Types -/

/-- One property of an entity or of a draft. -/
structure Property where
  name : String
  type : PropertyType
  isKey : Bool := false
  /-- The entity whose key the property holds. -/
  parent : Option String := none
  deriving DecidableEq, Repr

/-- Whether the property holds the key of another entity. -/
def Property.isForeign (p : Property) : Bool := p.parent.isSome

/-- A dependency on a row of another entity, which has to be there first. -/
structure Relationship where
  /-- The foreign-key property. -/
  property : String
  /-- The entity that it points at. -/
  parent : String
  /-- The variable that holds the seeded parent in generated tests. -/
  seedVariable : String
  /-- The key property of the parent. -/
  parentKey : String
  deriving DecidableEq, Repr

/-- A checked description of one entity. -/
structure Entity where
  name : String
  plural : String
  lambda : String
  properties : List Property
  /-- The one property that is the primary key. -/
  key : Property
  relationships : List Relationship
  deriving DecidableEq, Repr

/-- A description of an entity as given, before any check. -/
structure Draft where
  name : String
  plural : Option String := none
  lambda : Option String := none
  properties : List Property := []
  deriving DecidableEq, Repr

/-! ### Entities -/

namespace Entity

/-- Whether rows of other entities have to be there first. -/
def hasParents (e : Entity) : Bool := !e.relationships.isEmpty

/-- The name in small letters, as in `can_delete_orderitem_from_db`. Names are ASCII. -/
def lowerName (e : Entity) : String := Text.asciiLower e.name

/-- The name with its first letter made small, as a part of other names. -/
def variableName (e : Entity) : String := Text.lowerFirst e.name

/-- The local that holds an instance in generated tests. -/
def localName (e : Entity) : String := Name.localVariable e.name e.lambda

/-- Points every relationship at the key of its parent, where the parent's key is known. -/
def withParentKeys (key? : String → Option String) (e : Entity) : Entity :=
  { e with
    relationships := e.relationships.map fun r =>
      { r with parentKey := (key? r.parent).getD r.parentKey } }

end Entity

/-! ### Building -/

namespace Draft

/-- Refuses a value that is no identifier. -/
def requireIdentifier (field value : String) : Except DomainError Unit :=
  if Name.isIdentifier value then .ok ()
  else .error (.invalidIdentifier field value
    "must start with a letter or '_' and contain only letters, digits or '_'")

/-- The plural of a draft for the entity `name`: the given one, else the English plural. -/
def pluralFor (d : Draft) (name : String) : String :=
  match d.plural.bind Text.nonBlank? with
  | some plural => Name.pascal plural
  | none => Plural.of name

/-- The lambda parameter of a draft for the entity `name`: the given one, else the first letter. -/
def lambdaFor (d : Draft) (name : String) : String :=
  (d.lambda.bind Text.nonBlank?).getD (Name.defaultLambda name)

/-- Refuses a lambda parameter that the generated tests could not declare. -/
def requireLambda (lambda : String) : Except DomainError Unit := do
  requireIdentifier "lambda" lambda
  if Name.isKeyword lambda || Name.isReserved lambda then
    .error (.invalidIdentifier "lambda" lambda
      "is a C# keyword or a name the generated tests already use")

/-- A property with its names in PascalCase. -/
def normalise (entity : String) (p : Property) : Except DomainError Property := do
  let name := Name.pascal p.name
  if name.isEmpty then
    .error (.invalidIdentifier "property name" p.name
      ("property names on '" ++ entity ++ "' cannot be empty"))
  requireIdentifier "property name" name
  match p.parent with
  | none => pure { p with name }
  | some parent =>
    let parent := Name.pascal parent
    requireIdentifier "foreign entity" parent
    pure { p with name, parent := some parent }

/-- Every property with its names in PascalCase, or the first refusal. -/
def normaliseAll (entity : String) : List Property → Except DomainError (List Property)
  | [] => .ok []
  | p :: ps => do
    let p ← normalise entity p
    let ps ← normaliseAll entity ps
    pure (p :: ps)

/-- The first name that occurs a second time, from the left. `seen` holds the names before. -/
def firstRepeated? (seen : List String) : List String → Option String
  | [] => none
  | name :: rest => if seen.contains name then some name else firstRepeated? (name :: seen) rest

/-- The single key property, or the refusal. -/
def requireKey (entity : String) (properties : List Property) : Except DomainError Property :=
  match properties.filter (·.isKey) with
  | [key] => .ok key
  | [] => .error (.missingPrimaryKey entity)
  | keys => .error (.multiplePrimaryKeys entity (keys.map (·.name)))

/-- The variable that holds the seeded parent of a foreign key. A parent that several properties
point at, or that is the entity itself, has one variable for each property. -/
def seedVariable (entity : String) (properties : List Property) (property parent : String) :
    String :=
  if 1 < (properties.filter (·.parent == some parent)).length || parent == entity then
    "fake" ++ parent ++ "For" ++ property
  else Name.fakeVariable parent

/-- One relationship for each foreign key, in declaration order. -/
def relationships (entity : String) (properties : List Property) : List Relationship :=
  properties.filterMap fun p => p.parent.map fun parent =>
    { property := p.name, parent
      seedVariable := seedVariable entity properties p.name parent
      parentKey := Name.defaultParentKey }

/-- The entity that a draft describes, or the first cause to refuse it. -/
def build (d : Draft) : Except DomainError Entity := do
  if Text.isBlank d.name then .error .emptyEntityName
  let name := Name.pascal d.name
  requireIdentifier "entity name" name
  let plural := d.pluralFor name
  requireIdentifier "entity plural" plural
  let lambda := d.lambdaFor name
  requireLambda lambda
  let properties ← normaliseAll name d.properties
  match firstRepeated? [] (properties.map (·.name)) with
  | some property => .error (.duplicateProperty name property)
  | none =>
    let key ← requireKey name properties
    pure { name, plural, lambda, properties, key,
           relationships := relationships name properties }

end Draft

end Scaffold
