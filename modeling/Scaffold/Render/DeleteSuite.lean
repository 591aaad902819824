/-
  Scaffold/Render/DeleteSuite.lean
  ================================
  **The integration tests of the delete command.**

  The class holds up to four tests, in this order:

    1. a row is deleted, always;
    2. a missing row is reported, when the key's type has a value that no row holds;
    3. a row is marked instead of deleted, when soft deletion is on;
    4. a user without the permission is refused, when the feature is protected.
-/
import Scaffold.Flags
import Scaffold.Render.Seeds
import Scaffold.Source.Block
import Scaffold.Source.File
import Scaffold.Source.Fragments

namespace Scaffold.DeleteSuite

open Scaffold

variable (e : Entity)

/-! ### Pieces that several tests share -/

/-- A test method with the given name. -/
def testMethod (name : String) (body : List (List String)) : List String :=
  Source.block ["[Fact]", "public async Task " ++ name ++ "()"] (Source.spaced body)

/-- The statement that opens a scope of services. -/
def openScope : String :=
  "var testingServiceScope = new " ++ Name.testingServiceScope ++ "();"

/-- The command that deletes the row with the given key. -/
def newCommand (key : String) : String :=
  "var command = new " ++ Name.deleteFeature e.name ++ "." ++ Name.command ++ "(" ++ key ++ ");"

/-- The predicate that picks the row whose key is that of another expression. -/
def sameKey (other : String) : String :=
  e.lambda ++ " => " ++ e.lambda ++ "." ++ e.key.name ++ " == " ++ other ++ "." ++ e.key.name

/-- The start of a query on the rows of the entity. -/
def query (name : String) : String :=
  "var " ++ name ++ " = await testingServiceScope.ExecuteDbContextAsync(db => db." ++ e.plural

/-- Inserts one row after its parents and reads it back. -/
def arrangeSeeded : List String :=
  let seeds := Seeds.of e
  let fake := Name.fakeVariable e.name
  ["// Arrange",
   openScope,
   seeds.statements ++ "var " ++ fake ++ " = " ++ Name.faker e.name ++ ".Generate(new " ++
     Name.faker (DtoShape.creation.className e.name) ++ "()" ++ seeds.clauses ++ ".Generate());",
   "await testingServiceScope.InsertAsync(" ++ fake ++ ");",
   query e e.localName,
   "    .FirstOrDefaultAsync(" ++ sameKey e fake ++ "));"]

/-- Sends the command for the row that was inserted. -/
def actOnSeeded : List String :=
  ["// Act",
   newCommand e (e.localName ++ "." ++ e.key.name),
   "await testingServiceScope.SendAsync(command);"]

/-- Sends a command that is expected to be refused. -/
def actExpectingRefusal (key : String) : List String :=
  ["// Act",
   newCommand e key,
   "Func<Task> act = () => testingServiceScope.SendAsync(command);"]

/-- Expects that the command was refused with the given exception. -/
def assertRefused (exception : String) : List String :=
  ["// Assert", "await act.Should().ThrowAsync<" ++ exception ++ ">();"]

/-! ### The tests -/

/-- A row is gone after the command. -/
def happyPath : List String :=
  testMethod ("can_delete_" ++ e.lowerName ++ "_from_db")
    [arrangeSeeded e,
     actOnSeeded e ++
       [query e (e.localName ++ "Response"),
        "    .CountAsync(" ++ sameKey e e.localName ++ "));"],
     ["// Assert", e.localName ++ "Response.Should().Be(0);"]]

/-- A key without a row is reported as not found. -/
def notFound (badKey : String) : List String :=
  testMethod ("delete_" ++ e.lowerName ++ "_throws_notfoundexception_when_record_does_not_exist")
    [["// Arrange", openScope, "var badId = " ++ badKey ++ ";"],
     actExpectingRefusal e "badId",
     assertRefused "NotFoundException"]

/-- A row is still there after the command, and marked as deleted. -/
def softDelete : List String :=
  let deleted := "deleted" ++ e.name
  testMethod ("can_softdelete_" ++ e.lowerName ++ "_from_db")
    [arrangeSeeded e,
     actOnSeeded e ++
       [query e deleted,
        "    .IgnoreQueryFilters()",
        "    .FirstOrDefaultAsync(" ++ sameKey e e.localName ++ "));"],
     ["// Assert",
      deleted ++ ".Should().NotBeNull();",
      deleted ++ "!.IsDeleted.Should().BeTrue();"]]

/-- A key to send where any value of the type will do. -/
def anyKey : String := e.key.type.badKey?.getD ("default(" ++ e.key.type.csharp ++ ")")

/-- A user without the permission is refused. -/
def permissionTest (permission : String) : List String :=
  testMethod "must_be_permitted"
    [["// Arrange",
      openScope,
      "testingServiceScope.SetUserNotPermitted(Permissions." ++ permission ++ ");"],
     actExpectingRefusal e (anyKey e),
     assertRefused "ForbiddenAccessException"]

/-! ### The class -/

/-- The tests that the flags call for. -/
def fragments (flags : Flags) : Fragments :=
  let permission := flags.effectivePermission "Delete" e.plural
  (∅ : Fragments)
    |>.insert .happyPath (Source.members (happyPath e))
    |>.insert? .notFound (e.key.type.badKey?.map fun badKey => Source.members (notFound e badKey))
    |>.insertIf .softDelete flags.softDelete (Source.members (softDelete e))
    |>.insert? .permission (permission.map fun name => Source.members (permissionTest e name))

/-- The file of the delete command's tests. -/
def render (l : Layout) (e : Entity) (flags : Flags) : Except DomainError String := do
  let place ← l.artifact e .deleteCommandTest
  let fakes ← l.namespaceOf e (.fakes e.name)
  let feature ← l.artifact e .deleteFeature
  let exceptions ← l.namespaceOf e .exceptions
  let parents ← Seeds.imports l e
  let file : SourceFile :=
    { nameSpace := place.nameSpace,
      declaration := "public class " ++ place.className ++ " : TestBase" }
  pure ((file.importingAll ([fakes, feature.nameSpace, "FluentAssertions",
      "Microsoft.EntityFrameworkCore", "Xunit", "Domain", exceptions, "System",
      "System.Threading.Tasks"] ++ parents)).withBody (fragments e flags).assemble).render

end Scaffold.DeleteSuite
