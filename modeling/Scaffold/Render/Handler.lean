/-
  Scaffold/Render/Handler.lean
  ============================
  **The delete feature: a command record and its handler.**

  Protection is the only switch. A protected handler takes a guard among its dependencies and checks
  the permission before it touches the repository; an open one has no trace of either.
-/
import Scaffold.Flags
import Scaffold.Layout
import Scaffold.Source.Block
import Scaffold.Source.File

namespace Scaffold.Handler

open Scaffold

/-- Something a handler is given when it is made: a type, and the name of the parameter. -/
structure Dependency where
  type : String
  name : String
  deriving DecidableEq, Repr

namespace Dependency

/-- The field that keeps a dependency. -/
def field (d : Dependency) : String := "private readonly " ++ d.type ++ " _" ++ d.name ++ ";"

/-- The parameter of the constructor. -/
def parameter (d : Dependency) : String := d.type ++ " " ++ d.name

/-- The assignment in the constructor. -/
def assignment (d : Dependency) : String := "_" ++ d.name ++ " = " ++ d.name ++ ";"

end Dependency

/-- The name of the repository among the dependencies. -/
def repositoryName (e : Entity) : String := e.variableName ++ "Repository"

/-- The dependencies of a handler, in the order of the constructor's parameters. -/
def dependencies (e : Entity) (permission : Option String) : List Dependency :=
  [⟨Name.repository e.name, repositoryName e⟩, ⟨"IUnitOfWork", "unitOfWork"⟩] ++
    if permission.isSome then [⟨"IHeimGuardClient", "heimGuard"⟩] else []

/-- The check of a permission, with the blank line after it. -/
def guardLines : Option String → List String
  | some permission =>
    ["await _heimGuard.MustHavePermission<ForbiddenAccessException>(Permissions." ++ permission ++
       ");", ""]
  | none => []

/-- The record that carries the key of the row to delete. -/
def commandLine (e : Entity) : String :=
  "public sealed record " ++ Name.command ++ "(" ++ e.key.type.csharp ++ " " ++ e.key.name ++
    ") : IRequest;"

/-- The body of the method that handles the command. -/
def handleLines (e : Entity) (permission : Option String) : List String :=
  guardLines permission ++
    ["var recordToDelete = await _" ++ repositoryName e ++ ".GetById(request." ++ e.key.name ++
       ", cancellationToken: cancellationToken);",
     "_" ++ repositoryName e ++ ".Remove(recordToDelete);",
     "await _unitOfWork.CommitChanges(cancellationToken);"]

/-- The members of the feature class. -/
def lines (e : Entity) (permission : Option String) : List String :=
  let deps := dependencies e permission
  Source.spaced
    [[commandLine e],
     Source.block ["public sealed class Handler : IRequestHandler<" ++ Name.command ++ ">"]
       (Source.spaced
         [deps.map Dependency.field,
          Source.block
            ["public Handler(" ++ Text.joinWith ", " (deps.map Dependency.parameter) ++ ")"]
            (deps.map Dependency.assignment),
          Source.block
            ["public async Task Handle(" ++ Name.command ++
               " request, CancellationToken cancellationToken)"]
            (handleLines e permission)])]

/-- The file of the delete feature. -/
def render (l : Layout) (e : Entity) (flags : Flags) : Except DomainError String := do
  let place ← l.artifact e .deleteFeature
  let entityServices ← l.namespaceOf e (.entityServices e)
  let services ← l.namespaceOf e .services
  let exceptions ← l.namespaceOf e .exceptions
  let permission := flags.effectivePermission "Delete" e.plural
  let file : SourceFile :=
    { nameSpace := place.nameSpace, declaration := "public static class " ++ place.className }
  pure ((file.importingAll ([entityServices, services, exceptions] ++
      (if permission.isSome then ["HeimGuard"] else []) ++ ["MediatR"])).withBody
    (Source.members (lines e permission))).render

end Scaffold.Handler
