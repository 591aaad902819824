/-
  Scaffold/Manifest.lean
  ======================
  **Domain manifests.**

  A manifest describes the entities of a domain, as TOML or as JSON:

      [project]
      name = "Shop"

      [[entities]]
      name = "Order"

      [[entities.properties]]
      name = "Id"
      type = "guid"
      primary_key = true

  A text that is not a manifest fails as a whole. An entity with an unknown property type is
  rejected by itself, so that the others can be generated; all else about an entity is checked when
  its draft is built.
-/
import Scaffold.Batch
import Scaffold.Data.Forms
import Scaffold.Data.Json
import Scaffold.Data.Toml
import Scaffold.Host

namespace Scaffold

/-! ### Types -/

/-- What a manifest says about the project. -/
structure ProjectSection where
  name : Option String := none
  solution : Option String := none
  src : Option String := none
  test : Option String := none
  deriving DecidableEq, Repr, Inhabited

/-- A property of an entity as a manifest has it. -/
structure PropertyEntry where
  name : String
  type : String
  isKey : Bool := false
  parent : Option String := none
  deriving DecidableEq, Repr

/-- An entity as a manifest has it. -/
structure EntityEntry where
  name : String
  plural : Option String := none
  lambda : Option String := none
  softDelete : Bool := false
  isProtected : Bool := false
  permission : Option String := none
  properties : List PropertyEntry := []
  deriving DecidableEq, Repr

/-- What a manifest says. -/
structure Manifest where
  project : ProjectSection := {}
  entities : List EntityEntry := []
  deriving DecidableEq, Repr

/-- An entity that could not be taken from a manifest. -/
structure Rejection where
  name : String
  cause : DomainError
  deriving DecidableEq, Repr

/-- A manifest with its entities split into usable and rejected ones. -/
structure Domain where
  project : ProjectSection
  definitions : List Definition
  rejected : List Rejection
  deriving DecidableEq, Repr

/-! ### Manifests from data -/

/-- The section about the project that a value stands for. -/
def ProjectSection.ofData? (strict : Bool) (d : Data) : Option ProjectSection := do
  match ← d.record? strict
      [⟨.optional, ["name"]⟩, ⟨.optional, ["solution"]⟩, ⟨.optional, ["src"]⟩,
       ⟨.optional, ["test"]⟩] with
  | [name, solution, src, test] =>
    pure { name := ← Data.optionalText? name, solution := ← Data.optionalText? solution,
           src := ← Data.optionalText? src, test := ← Data.optionalText? test }
  | _ => none

/-- The property that a value stands for. -/
def PropertyEntry.ofData? (strict : Bool) (d : Data) : Option PropertyEntry := do
  match ← d.record? strict
      [⟨.required, ["name"]⟩, ⟨.required, ["type"]⟩, ⟨.defaulted, ["primary_key"]⟩,
       ⟨.optional, ["foreign_entity"]⟩] with
  | [some name, some type, isKey, parent] =>
    pure { name := ← name.text?, type := ← type.text?, isKey := ← Data.boolOr? false isKey,
           parent := ← Data.optionalText? parent }
  | _ => none

/-- The values of a list that may be left out. -/
def Data.listOr? (read? : Data → Option α) : Option Data → Option (List α)
  | none => some []
  | some d => d.list?.bind fun items => items.mapM read?

/-- The entity that a value stands for. -/
def EntityEntry.ofData? (strict : Bool) (d : Data) : Option EntityEntry := do
  match ← d.record? strict
      [⟨.required, ["name"]⟩, ⟨.optional, ["plural"]⟩, ⟨.optional, ["lambda"]⟩,
       ⟨.defaulted, ["soft_delete", "use_soft_delete"]⟩,
       ⟨.defaulted, ["protected", "is_protected"]⟩, ⟨.optional, ["permission"]⟩,
       ⟨.defaulted, ["properties"]⟩] with
  | [some name, plural, lambda, softDelete, isProtected, permission, properties] =>
    pure { name := ← name.text?, plural := ← Data.optionalText? plural,
           lambda := ← Data.optionalText? lambda, softDelete := ← Data.boolOr? false softDelete,
           isProtected := ← Data.boolOr? false isProtected,
           permission := ← Data.optionalText? permission,
           properties := ← Data.listOr? (PropertyEntry.ofData? strict) properties }
  | _ => none

/-- The manifest that a value stands for. -/
def Manifest.ofData? (strict : Bool) (d : Data) : Option Manifest := do
  match ← d.record? strict [⟨.defaulted, ["project"]⟩, ⟨.defaulted, ["entities"]⟩] with
  | [project, entities] =>
    pure { project := ← project.elim (some {}) (ProjectSection.ofData? strict),
           entities := ← Data.listOr? (EntityEntry.ofData? strict) entities }
  | _ => none

/-! ### Formats -/

/-- The formats a manifest may be written in. -/
inductive Manifest.Format
  | toml
  | json
  deriving DecidableEq, Repr

namespace Manifest.Format

/-- The format of a file: JSON by its extension, in any ASCII case, else TOML. -/
def ofPath (path : String) : Format :=
  if (Path.extension? path).any fun ending => Text.asciiLower ending == "json" then json else toml

/-- The name of a format. -/
def name : Format → String
  | toml => "TOML"
  | json => "JSON"

/-- The value that a text says. -/
def read? : Format → String → Option Data
  | toml => Toml.read?
  | json => Json.read?

/-- Whether a record that is written as a list ends with its last field. -/
def isStrict : Format → Bool
  | toml => false
  | json => true

end Manifest.Format

/-- The manifest that a text says; `origin` is where the text is from. -/
def Manifest.parse (format : Manifest.Format) (origin text : String) : Except Failure Manifest :=
  match format.read? text with
  | none => .error (.invalidManifest origin ("the text is not valid " ++ format.name))
  | some d =>
    match Manifest.ofData? format.isStrict d with
    | none => .error (.invalidManifest origin "a field is missing, repeated or of the wrong type")
    | some manifest => .ok manifest

/-! ### From manifests to definitions -/

/-- The property that an entry describes. -/
def PropertyEntry.property (p : PropertyEntry) : Except DomainError Property := do
  let type ← PropertyType.parse p.type
  pure { name := p.name, type, isKey := p.isKey, parent := p.parent }

/-- The definition that an entry describes, or the unknown type of its first such property. -/
def EntityEntry.definition (e : EntityEntry) : Except DomainError Definition := do
  let properties ← e.properties.mapM PropertyEntry.property
  pure { draft := { name := e.name, plural := e.plural, lambda := e.lambda, properties }
         flags := { softDelete := e.softDelete, isProtected := e.isProtected,
                    permission := e.permission } }

namespace Manifest

/-- The definitions of a manifest, in its order. -/
def definitions (m : Manifest) : List Definition :=
  m.entities.filterMap fun e => e.definition.toOption

/-- The entities of a manifest that have no definition, in its order. -/
def rejected (m : Manifest) : List Rejection :=
  m.entities.filterMap fun e =>
    match e.definition with
    | .ok _ => none
    | .error cause => some { name := e.name, cause }

/-- The manifest with its entities split. -/
def domain (m : Manifest) : Domain :=
  { project := m.project, definitions := m.definitions, rejected := m.rejected }

end Manifest

/-- The domain of the manifest at a path, given what is there. -/
def Domain.ofFound (path : String) : Found → Except Failure Domain
  | .absent => .error (.manifestNotFound path)
  | .directory => .error (.invalidManifest path "failed to read: is a directory")
  | .unreadable => .error (.invalidManifest path "failed to read")
  | .file text => (Manifest.parse (.ofPath path) path text).map (·.domain)

end Scaffold
