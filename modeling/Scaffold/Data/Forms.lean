/-
  Scaffold/Data/Forms.lean
  ========================
  **Names, switches and layouts as data.**

  A member of an enumeration is the text of its name, or a table whose one field has that name and
  is null. Switches and layouts are records; switches may leave out every field, layouts none.
-/
import Scaffold.Artifact
import Scaffold.Data
import Scaffold.Flags
import Scaffold.Layout
import Scaffold.PropertyType

namespace Scaffold

/-! ### Enumerations -/

/-- The name that a value stands for. -/
def Data.name? : Data → Option String
  | .text name => some name
  | .table [(name, .null)] => some name
  | _ => none

/-- The property type that a value stands for. -/
def PropertyType.ofData? (d : Data) : Option PropertyType := d.name?.bind PropertyType.ofName?

/-- A property type as a value. -/
def PropertyType.toData (type : PropertyType) : Data := .text type.name

/-- The shape that a value stands for. -/
def DtoShape.ofData? (d : Data) : Option DtoShape := d.name?.bind DtoShape.ofName?

/-- A shape as a value. -/
def DtoShape.toData (shape : DtoShape) : Data := .text shape.name

/-- The artifact kind that a value stands for. -/
def ArtifactKind.ofData? (d : Data) : Option ArtifactKind := d.name?.bind ArtifactKind.ofName?

/-- An artifact kind as a value. -/
def ArtifactKind.toData (kind : ArtifactKind) : Data := .text kind.name

/-! ### Records -/

/-- A truth value that may be left out. -/
def Data.boolOr? (default : Bool) : Option Data → Option Bool
  | none => some default
  | some d => d.bool?

/-- A text as a value, or null. -/
def Data.ofOptionalText (text : Option String) : Data := text.elim .null .text

/-- The switches that a value stands for. -/
def Flags.ofData? (d : Data) : Option Flags := do
  match ← d.record? true
      [⟨.defaulted, ["use_soft_delete"]⟩, ⟨.defaulted, ["is_protected"]⟩,
       ⟨.defaulted, ["permission"]⟩] with
  | [softDelete, isProtected, permission] =>
    pure { softDelete := ← Data.boolOr? false softDelete
           isProtected := ← Data.boolOr? false isProtected
           permission := ← Data.optionalText? permission }
  | _ => none

/-- Switches as a value. -/
def Flags.toData (flags : Flags) : Data :=
  .table [("use_soft_delete", .bool flags.softDelete), ("is_protected", .bool flags.isProtected),
    ("permission", Data.ofOptionalText flags.permission)]

/-- The layout that a value stands for. -/
def Layout.ofData? (d : Data) : Option Layout := do
  match ← d.record? true
      [⟨.required, ["solution_directory"]⟩, ⟨.required, ["src_directory"]⟩,
       ⟨.required, ["test_directory"]⟩, ⟨.required, ["project_base_name"]⟩] with
  | [some solution, some src, some test, some project] =>
    pure { solution := ← solution.text?, src := ← src.text?, test := ← test.text?,
           project := ← project.text? }
  | _ => none

/-- A layout as a value. -/
def Layout.toData (l : Layout) : Data :=
  .table [("solution_directory", .text l.solution), ("src_directory", .text l.src),
    ("test_directory", .text l.test), ("project_base_name", .text l.project)]

end Scaffold
