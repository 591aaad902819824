/-
  Scaffold/Render/UpdateSuite.lean
  ================================
  **The unit test of an entity's update method.**
-/
import Scaffold.Layout
import Scaffold.Source.Block
import Scaffold.Source.File

namespace Scaffold.UpdateSuite

open Scaffold

/-- The members of the test class. -/
def lines (e : Entity) (className : String) : List String :=
  let fake := "fake" ++ e.name
  let updated := "updated" ++ e.name
  Source.spaced
    [["private readonly Faker _faker;"],
     Source.block ["public " ++ className ++ "()"] ["_faker = new Faker();"],
     Source.block ["[Fact]", "public void can_update_" ++ e.variableName ++ "()"]
       (Source.spaced
         [["// Arrange",
           "var " ++ fake ++ " = " ++ Name.faker e.name ++ ".Generate();",
           "var " ++ updated ++ " = new " ++ Name.faker (DtoShape.update.className e.name) ++
             "().Generate();"],
          ["// Act", fake ++ ".Update(" ++ updated ++ ");"],
          ["// Assert",
           fake ++ ".Should().BeEquivalentTo(" ++ updated ++ ", options =>",
           "    options.ExcludingMissingMembers());"]])]

/-- The file of the update method's test. -/
def render (l : Layout) (e : Entity) : Except DomainError String := do
  let place ← l.artifact e .updateEntityTest
  let fakes ← l.namespaceOf e (.fakes e.name)
  let entityClass ← l.namespaceOf e (.entityClass e)
  let file : SourceFile :=
    { nameSpace := place.nameSpace, declaration := "public class " ++ place.className }
  pure ((file.importingAll [fakes, entityClass, "Bogus", "FluentAssertions", "Xunit"]).withBody
    (Source.members (lines e place.className))).render

end Scaffold.UpdateSuite
