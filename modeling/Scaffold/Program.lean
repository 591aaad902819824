/-
  Scaffold/Program.lean
  =====================
  **A run of the program, from its arguments to its exit code.**

  A run adds the variables of the file `.env` to its own, reads the command line and the settings,
  does what the command says and tells about it. What it prints is part of its result, so that the
  same run can be watched on a machine and on a `Disk`.
-/
import Scaffold.Choice
import Scaffold.Host
import Scaffold.Summary
import Scaffold.Usage

namespace Scaffold.Program

open Scaffold CommandLine

/-! ### Results -/

/-- How a run ends. -/
structure Ending where
  exitCode : Nat
  output : String := ""
  errors : String := ""
  deriving DecidableEq, Repr

/-- Which of the two outputs of a run are terminals. -/
structure Terminals where
  output : Bool := false
  errors : Bool := false
  deriving DecidableEq, Repr

/-- What a command prints, and the problem it ends with. -/
structure Result where
  output : String := ""
  problem : Option Problem := none
  deriving DecidableEq, Repr

/-- How the results of a command are printed. -/
structure Style where
  isJson : Bool := false
  console : Console := {}
  deriving DecidableEq, Repr

namespace Style

/-- The style that options and settings ask for. -/
def of (globals : Globals) (settings : Settings) (noColours : Bool) (terminals : Terminals) :
    Style :=
  let format : OutputFormat := match globals.format.getD .automatic with
    | .automatic => if terminals.output then .human else .plain
    | format => format
  let refusesColours := globals.noColours || noColours || settings.noColours
  { isJson := format == .json
    console := { isQuiet := globals.isQuiet, hasColours := format == .human && !refusesColours } }

end Style

/-- Words that mean no. -/
def denials : List String := ["n", "no", "f", "false", "off", "0"]

/-- Whether a variable asks for no colours: it is set, and to nothing that means no. -/
def refusesColours (vars : Variables) : Bool :=
  (vars.get? "NO_COLOR").any fun value =>
    !value.isEmpty && !denials.contains (Text.asciiLower value)

/-! ### The command `list` -/

/-- What stands for the entity's name when none is given. -/
def namePattern : String := "\x7bName\x7d"

/-- The entity's name that file names are shown for. -/
def listedName : Option String → Except Problem String
  | none => .ok namePattern
  | some name =>
    if Name.isIdentifier (Text.trim name) then .ok (Name.pascal name)
    else .error (.invalidInput ("'" ++ name ++ "' is not a valid entity name"))

/-- The row about a kind as a line. -/
def rowLine (entity : String) (kind : ArtifactKind) : Line :=
  .plain ("  " ++ Text.padRight 22 kind.name ++ " " ++ Text.padRight 36 (kind.fileName entity) ++
    " " ++ kind.description)

/-- The row about a kind as a value. -/
def rowData (entity : String) (kind : ArtifactKind) : Data :=
  .table [("kind", .text kind.name), ("file", .text (kind.fileName entity)),
    ("description", .text kind.description)]

/-- Lists the kinds of artifacts. -/
def list (style : Style) (entity : Option String) : Result :=
  match listedName entity with
  | .error problem => { problem := some problem }
  | .ok name =>
    if style.isJson then
      { output := Json.pretty (.list (ArtifactKind.all.map (rowData name))) ++ "\n" }
    else
      { output := style.console.print
          (.header "Artifact kinds:" :: ArtifactKind.all.map (rowLine name)) }

/-! ### The command `generate` -/

variable {m : Type → Type} [Monad m]

/-- The directory that paths of a manifest start from. -/
def manifestDirectory (host : Host m) (manifest : String) : m (Except Problem String) := do
  match (Path.parent? manifest).filter (!·.isEmpty) with
  | some directory => pure (.ok directory)
  | none =>
    match ← host.workingDirectory with
    | some directory => pure (.ok directory)
    | none =>
      pure (.error (.system "resolving the working directory" "no such file or directory"))

/-- Tells about a finished run. -/
def told (style : Style) (runId : String) (report : Report) (rejected : List Rejection) : Result :=
  { output :=
      if style.isJson then Json.pretty (Summary.data report rejected runId) ++ "\n"
      else style.console.print (Summary.lines report rejected)
    problem := Summary.problem? report rejected }

/-- Generates the artifacts of a manifest. -/
def generate (host : Host m) (style : Style) (settings : Settings) (options : GenerateOptions) :
    m Result := do
  match Domain.ofFound options.manifest (← host.look options.manifest) with
  | .error failure => pure { problem := some (.core failure) }
  | .ok domain =>
    match ← manifestDirectory host options.manifest with
    | .error problem => pure { problem := some problem }
    | .ok directory =>
      match Choice.layout options domain.project settings directory with
      | .error problem => pure { problem := some problem }
      | .ok layout =>
        let kinds := ArtifactKind.requested options.only
        let report ←
          if options.isDryRun then pure (layout.planBatch kinds domain.definitions)
          else layout.generateBatch host.sink kinds domain.definitions
        pure (told style (← host.runId) report domain.rejected)

/-! ### The whole run -/

/-- The variables of a run: its own, and those of the nearest file `.env`. -/
def gatherVariables (host : Host m) (own : Variables) : m Variables := do
  match ← host.workingDirectory with
  | none => pure own
  | some directory =>
    let places := (Path.ancestors directory).map (Path.join · ".env")
    match ← Settings.firstFile host places with
    | some (_, .file text) => pure (own.addFile text)
    | _ => pure own

/-- Does what a command says. -/
def perform (host : Host m) (style : Style) (settings : Settings) : Command → m Result
  | .generate options => generate host style settings options
  | .list entity => pure (list style entity)
  | .completions shell => pure { output := Usage.completions shell }

/-- How a run ends that was halted before its command. -/
def halted : Halt → Ending
  | .misuse => { exitCode := 2, errors := Usage.misuse }
  | .help => { exitCode := 0, output := Usage.help }
  | .version => { exitCode := 0, output := Usage.versionText }

/-- How a run ends with the result of its command. -/
def ended (settingsPath : String) (isVerbose : Bool) (terminals : Terminals) (result : Result) :
    Ending :=
  match result.problem with
  | none => { exitCode := 0, output := result.output }
  | some problem =>
    { exitCode := problem.exitCode
      output := result.output
      errors :=
        if terminals.errors then problem.coloured settingsPath isVerbose
        else problem.plain settingsPath isVerbose }

/-- Runs the program. -/
def run (host : Host m) (own : Variables) (terminals : Terminals) (arguments : List String) :
    m Ending := do
  let vars ← gatherVariables host own
  match parse arguments with
  | .error halt => pure (halted halt)
  | .ok request =>
    let globals := request.globals
    let settingsPath := Settings.ownPath vars (← host.accountHome)
    let result ← match ← Settings.read host vars globals.settings with
      | .error refusal => pure { problem := some (.settings refusal.message refusal.causes) }
      | .ok settings =>
        perform host (Style.of globals settings (refusesColours vars) terminals) settings
          request.command
    pure (ended settingsPath (globals.verbosity != 0) terminals result)

end Scaffold.Program
