/-
  Scaffold/Choice.lean
  ====================
  **The layout of a run.**

  Every root and the project's name come from the first source that has them: the command line, the
  manifest, the settings. Paths in a manifest start from the manifest's directory. Where no source
  has a value, the solution is the manifest's directory, `src` and `tests` are below the solution,
  and the project is named like the solution's directory.
-/
import Scaffold.CommandLine
import Scaffold.Layout
import Scaffold.Manifest
import Scaffold.Problem
import Scaffold.Settings

namespace Scaffold.Choice

open Scaffold

/-- The first of three sources that has a path. -/
def root? (directory : String) (option entry setting : Option String) : Option String :=
  (option.or (entry.map (Path.join directory))).or setting

/-- Why a run has no project name. -/
def noProject : Problem :=
  .invalidInput "no project name: pass --project or set [project].name in the manifest"

/-- The name of the project: that of the first source, else of the solution's directory. It is not
blank. -/
def project (solution : String) (option entry setting : Option String) : Except Problem String :=
  match ((option.or entry).or setting).or (Path.fileName? solution) with
  | none => .error noProject
  | some name => if Text.isBlank name then .error noProject else .ok name

/-- The layout of a run on the manifest in `directory`. -/
def layout (options : CommandLine.GenerateOptions) (entry : ProjectSection) (settings : Settings)
    (directory : String) : Except Problem Layout := do
  let solution :=
    (root? directory options.solution entry.solution settings.solution).getD directory
  let src := (root? directory options.src entry.src settings.src).getD (Path.join solution "src")
  let test :=
    (root? directory options.test entry.test settings.test).getD (Path.join solution "tests")
  let project ← project solution options.project entry.name settings.project
  pure { solution, src, test, project }

end Scaffold.Choice
