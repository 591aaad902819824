/-
  Scaffold/Layout.lean
  ====================
  **Where generated classes live.**

  A `Layout` names the three roots of a solution and its project. A class path hangs off one root;
  its namespace is the folders below the root with dots between them, so that a file and every
  reference to it agree.

      test / (project).IntegrationTests / FeatureTests / (plural)        feature tests
      test / (project).UnitTests / UnitTests / Domain / (plural)         entity unit tests
      test / (project).SharedTestHelpers / Fakes / (name)                fakers
      src / (project) / Domain / (plural) / Features                     features
      src / (project) / Domain / (plural)                                entity
      src / (project) / Domain / (plural) / Services                     entity services
      src / (project) / Domain / (plural) / Dtos                         data transfer objects
      src / (project) / Services                                         services
      solution / SharedKernel / Exceptions                               exceptions

  A layout is not checked when it is made. Resolving a class path refuses a root that is empty, a
  file name with a separator and a project name that is no dotted identifier, naming the file it was
  for.
-/
import Scaffold.Artifact
import Scaffold.Entity
import Scaffold.Path

namespace Scaffold

/-! ### Types -/

/-- The roots of a solution and the name its namespaces start with. -/
structure Layout where
  solution : String
  src : String
  test : String
  project : String
  deriving DecidableEq, Repr

/-- The conventional layout: sources under `src`, tests under `tests`. -/
def Layout.conventional (solution project : String) : Layout :=
  { solution, src := Path.join solution "src", test := Path.join solution "tests", project }

/-- The root that a class path hangs off. -/
inductive Root
  | solution
  | src
  | test
  deriving DecidableEq, Repr

namespace Root

/-- All roots. -/
def all : List Root := [solution, src, test]

/-- The name of a root in messages. -/
def name : Root → String
  | solution => "solution"
  | src => "src"
  | test => "test"

/-- The directory of a root. -/
def path : Root → Layout → String
  | solution, l => l.solution
  | src, l => l.src
  | test, l => l.test

end Root

/-- A folder below a root: the project folder with its suffix, when there is one, and the folders in
it. -/
structure Folder where
  root : Root
  /-- What follows the project's name; nothing when the project has no folder here. -/
  projectSuffix : Option String
  folders : List String
  deriving DecidableEq, Repr

/-- The place of one class. -/
structure ClassPath where
  /-- The folders below the root, the project folder first. -/
  segments : List String
  directory : String
  fullPath : String
  className : String
  deriving DecidableEq, Repr

namespace ClassPath

/-- The class path of a file in a folder below `root`. -/
def ofSegments (root : String) (segments : List String) (file : String) : ClassPath :=
  let directory := segments.foldl Path.join root
  { segments, directory
    fullPath := Path.join directory file
    className := (Path.stem? file).getD file }

/-- The namespace of the class. -/
def nameSpace (p : ClassPath) : String := Text.joinWith "." p.segments

/-- The class with its namespace. -/
def qualifiedName (p : ClassPath) : String := p.nameSpace ++ "." ++ p.className

end ClassPath

/-! ### Folders -/

namespace Folder

variable (e : Entity)

/-- Tests of features. -/
def featureTests : Folder := ⟨.test, some ".IntegrationTests", ["FeatureTests", e.plural]⟩

/-- Unit tests of the entity. -/
def unitTests : Folder := ⟨.test, some ".UnitTests", ["UnitTests", "Domain", e.plural]⟩

/-- Fakers of the entity with the given name, which may be a parent. -/
def fakes (name : String) : Folder := ⟨.test, some ".SharedTestHelpers", ["Fakes", name]⟩

/-- Features of the entity. -/
def features : Folder := ⟨.src, some "", ["Domain", e.plural, "Features"]⟩

/-- The entity itself. -/
def entityClass : Folder := ⟨.src, some "", ["Domain", e.plural]⟩

/-- The repository and other services of the entity. -/
def entityServices : Folder := ⟨.src, some "", ["Domain", e.plural, "Services"]⟩

/-- Data transfer objects of the entity. -/
def dtos : Folder := ⟨.src, some "", ["Domain", e.plural, "Dtos"]⟩

/-- Services of the whole project. -/
def services : Folder := ⟨.src, some "", ["Services"]⟩

/-- Exceptions that all projects share. -/
def exceptions : Folder := ⟨.solution, none, ["SharedKernel", "Exceptions"]⟩

/-- The folder of an artifact. -/
def ofArtifact : ArtifactKind → Folder
  | .deleteFeature => features e
  | .deleteCommandTest => featureTests e
  | .updateEntityTest => unitTests e
  | .entityFaker | .creationDtoFaker | .updateDtoFaker => fakes e.name

end Folder

/-! ### Resolving -/

namespace Layout

variable (l : Layout) (e : Entity)

/-- The refusal to resolve a file of the entity; a folder alone is named as its namespace. -/
def unresolvable (file reason : String) : DomainError :=
  .unresolvableName e.name (if file.isEmpty then "<namespace>" else file) reason

/-- The project folder with the given suffix, or the reason why there is none. -/
def projectFolder (suffix : String) : Except String String :=
  let base := Text.trim l.project
  if base.isEmpty then .error "project base name is empty"
  else if Name.isDotted base then .ok (base ++ suffix)
  else .error ("project base name '" ++ base ++ "' is not a dotted identifier")

/-- The folders below the root of a folder, or the reason why they cannot be named. -/
def segments (folder : Folder) : Except String (List String) :=
  match folder.projectSuffix with
  | none => .ok folder.folders
  | some suffix => (l.projectFolder suffix).map (· :: folder.folders)

/-- The class path of a file in a folder. An empty file name stands for the folder itself. -/
def resolve (folder : Folder) (file : String) : Except DomainError ClassPath :=
  let root := folder.root.path l
  if root.isEmpty then .error (unresolvable e file (folder.root.name ++ " directory is empty"))
  else if file.toList.any fun c => c == '/' || c == '\\' then
    .error (unresolvable e file "file name must not contain path separators")
  else
    match l.segments folder with
    | .ok segments => .ok (ClassPath.ofSegments root segments file)
    | .error reason => .error (unresolvable e file reason)

/-- The namespace of a folder. -/
def namespaceOf (folder : Folder) : Except DomainError String :=
  (l.resolve e folder "").map ClassPath.nameSpace

/-- Where an artifact of the entity is written. -/
def artifact (kind : ArtifactKind) : Except DomainError ClassPath :=
  l.resolve e (.ofArtifact e kind) (kind.fileName e.name)

end Layout

end Scaffold
