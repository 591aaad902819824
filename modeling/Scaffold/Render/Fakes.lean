/-
  Scaffold/Render/Fakes.lean
  ==========================
  **Makers of test data.**

  One class makes entities through their own factory, one class for each shape of data transfer
  object fills it with made-up values. Foreign keys are left at the default of their type: the tests
  that insert rows set them.
-/
import Scaffold.Layout
import Scaffold.Source.Block
import Scaffold.Source.File

namespace Scaffold.Fakes

open Scaffold

/-- The members of the class that makes entities. -/
def entityLines (e : Entity) : List String :=
  let dto := DtoShape.creation.className e.name
  let parameter := Text.lowerFirst dto
  Source.spaced
    [Source.block ["public static " ++ e.name ++ " Generate(" ++ dto ++ " " ++ parameter ++ ")"]
       ["return " ++ e.name ++ ".Create(" ++ parameter ++ ");"],
     Source.block ["public static " ++ e.name ++ " Generate()"]
       ["return " ++ e.name ++ ".Create(new " ++ Name.faker dto ++ "().Generate());"]]

/-- The file of the class that makes entities. -/
def renderEntity (l : Layout) (e : Entity) : Except DomainError String := do
  let place ← l.artifact e .entityFaker
  let entityClass ← l.namespaceOf e (.entityClass e)
  let dtos ← l.namespaceOf e (.dtos e)
  let file : SourceFile :=
    { nameSpace := place.nameSpace, declaration := "public class " ++ place.className }
  pure ((file.importingAll [entityClass, dtos]).withBody (Source.members (entityLines e))).render

/-- The artifact that fills a shape of data transfer object. -/
def artifactOf : DtoShape → ArtifactKind
  | .creation => .creationDtoFaker
  | .update => .updateDtoFaker

/-- The rule that leaves a foreign key at its default. -/
def resetLine (lambda : String) (p : Property) : String :=
  "RuleFor(" ++ lambda ++ " => " ++ lambda ++ "." ++ p.name ++ ", _ => default(" ++
    p.type.csharp ++ "));"

/-- The members of the class that fills a data transfer object: its constructor. -/
def dtoLines (e : Entity) (className : String) : List String :=
  Source.block ["public " ++ className ++ "()"]
    ((e.properties.filter (·.isForeign)).map (resetLine e.lambda))

/-- The file of the class that fills a data transfer object. -/
def renderDto (l : Layout) (e : Entity) (shape : DtoShape) : Except DomainError String := do
  let place ← l.artifact e (artifactOf shape)
  let dtos ← l.namespaceOf e (.dtos e)
  let file : SourceFile :=
    { nameSpace := place.nameSpace,
      declaration := "public sealed class " ++ place.className ++ " : AutoFaker<" ++
        shape.className e.name ++ ">" }
  pure ((file.importingAll ["AutoBogus", dtos]).withBody
    (Source.members (dtoLines e place.className))).render

end Scaffold.Fakes
