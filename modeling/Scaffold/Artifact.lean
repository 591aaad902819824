/-
  Scaffold/Artifact.lean
  ======================
  **The files that are generated for an entity.**

  `ArtifactKind` lists them in generation order, with the name of the class and of the file that
  each holds. `DtoShape` tells the two data transfer objects of an entity apart.
-/
import Scaffold.Error
import Scaffold.Name

namespace Scaffold

/-! ### Data transfer objects -/

/-- The data transfer objects every entity has. -/
inductive DtoShape
  | creation
  | update
  deriving DecidableEq, Repr

namespace DtoShape

/-- Both shapes. -/
def all : List DtoShape := [creation, update]

/-- The name of a shape. -/
def name : DtoShape → String
  | creation => "creation"
  | update => "update"

/-- What a shape adds to the entity's name. -/
def suffix : DtoShape → String
  | creation => "ForCreationDto"
  | update => "ForUpdateDto"

/-- The shape with exactly this name. -/
def ofName? (s : String) : Option DtoShape := all.find? (·.name == s)

/-- The class of an entity's data transfer object. -/
def className (shape : DtoShape) (entity : String) : String := entity ++ shape.suffix

end DtoShape

/-! ### Artifacts -/

/-- The kinds of generated files, in generation order. -/
inductive ArtifactKind
  | deleteFeature
  | deleteCommandTest
  | updateEntityTest
  | entityFaker
  | creationDtoFaker
  | updateDtoFaker
  deriving DecidableEq, Ord, Repr

namespace ArtifactKind

/-- All kinds, in generation order. -/
def all : List ArtifactKind :=
  [deleteFeature, deleteCommandTest, updateEntityTest, entityFaker, creationDtoFaker,
   updateDtoFaker]

/-- The name a kind is requested by. -/
def name : ArtifactKind → String
  | deleteFeature => "delete-feature"
  | deleteCommandTest => "delete-command-test"
  | updateEntityTest => "update-entity-test"
  | entityFaker => "entity-faker"
  | creationDtoFaker => "creation-dto-faker"
  | updateDtoFaker => "update-dto-faker"

/-- What a kind is, in a few words. -/
def description : ArtifactKind → String
  | deleteFeature => "Delete command and handler"
  | deleteCommandTest => "Integration tests for the delete command"
  | updateEntityTest => "Unit test for the entity update method"
  | entityFaker => "Fake entity generator"
  | creationDtoFaker => "Fake creation DTO generator"
  | updateDtoFaker => "Fake update DTO generator"

/-- The class that the file of a kind declares for an entity. -/
def className : ArtifactKind → String → String
  | deleteFeature, entity => Name.deleteFeature entity
  | deleteCommandTest, entity => Name.deleteCommandTests entity
  | updateEntityTest, entity => Name.updateTests entity
  | entityFaker, entity => Name.faker entity
  | creationDtoFaker, entity => Name.faker (DtoShape.creation.className entity)
  | updateDtoFaker, entity => Name.faker (DtoShape.update.className entity)

/-- The file of a kind for an entity. -/
def fileName (kind : ArtifactKind) (entity : String) : String := kind.className entity ++ ".cs"

/-- The kind with exactly this name. -/
def ofName? (s : String) : Option ArtifactKind := all.find? (·.name == s)

/-- The kind that a request names, without regard to surrounding blanks and ASCII case; underscores
count as hyphens. -/
def parse (s : String) : Except DomainError ArtifactKind :=
  let wanted := (Text.asciiLower (Text.trim s)).toList.map fun c => if c == '_' then '-' else c
  match ofName? (String.ofList wanted) with
  | some kind => .ok kind
  | none => .error (.unknownArtifactKind s)

/-- The kinds that a selection stands for: all of them when nothing is selected, else the selected
kinds sorted into generation order, without those that repeat the one before. -/
def requested (selection : List ArtifactKind) : List ArtifactKind :=
  if selection.isEmpty then all
  else (selection.mergeSort fun a b => (compare a b).isLE).eraseReps

end ArtifactKind

end Scaffold
