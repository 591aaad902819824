/-
  Scaffold/Flags.lean
  ===================
  **Switches for the generated features of one entity.**
-/
import Scaffold.Text

namespace Scaffold

/-- What is switched on for an entity; everything is off unless said otherwise. -/
structure Flags where
  /-- Deleted rows are kept and marked. -/
  softDelete : Bool := false
  /-- The feature checks a permission before it acts. -/
  isProtected : Bool := false
  /-- The permission to check, when it is given by name. -/
  permission : Option String := none
  deriving DecidableEq, Repr, Inhabited

namespace Flags

/-- The permission that generated code checks for an action: none for an open feature, the given
name without surrounding blanks, else `Can` with the action and the plural. -/
def effectivePermission (flags : Flags) (action plural : String) : Option String :=
  if flags.isProtected then
    some ((flags.permission.bind Text.nonBlank?).getD ("Can" ++ action ++ plural))
  else none

end Flags

end Scaffold
