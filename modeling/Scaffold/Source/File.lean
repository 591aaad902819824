/-
  Scaffold/Source/File.lean
  =========================
  **The shell around every generated file.**

      namespace Shop.Services;

      using MediatR;

      public class Order
      (body between braces)

  Imports keep the order in which they were first added; an import that is empty or already there is
  ignored, and a file without imports has no blank line for them.
-/
import Scaffold.Text

namespace Scaffold

/-- A generated file: its namespace, what it imports, and its one class. -/
structure SourceFile where
  nameSpace : String
  imports : List String := []
  declaration : String
  /-- The members of the class, already one level in. -/
  body : String := ""
  deriving DecidableEq, Repr

namespace SourceFile

/-- Adds an import, unless it is empty or there already. -/
def importing (f : SourceFile) (name : String) : SourceFile :=
  if name.isEmpty || f.imports.contains name then f else { f with imports := f.imports ++ [name] }

/-- Adds imports one after the other. -/
def importingAll (f : SourceFile) (names : List String) : SourceFile := names.foldl importing f

/-- Replaces the members of the class. -/
def withBody (f : SourceFile) (body : String) : SourceFile := { f with body }

/-- The lines for the imports, with the blank line after them. -/
def importLines (imports : List String) : String :=
  if imports.isEmpty then ""
  else Text.endLines (imports.map fun name => "using " ++ name ++ ";") ++ "\n"

/-- The text of the file. -/
def render (f : SourceFile) : String :=
  "namespace " ++ f.nameSpace ++ ";\n\n" ++ importLines f.imports ++
    f.declaration ++ "\n\x7b\n" ++
    (if f.body.isEmpty then "" else f.body ++ "\n") ++ "\x7d\n"

end SourceFile

end Scaffold
