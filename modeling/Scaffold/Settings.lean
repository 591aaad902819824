/-
  Scaffold/Settings.lean
  ======================
  **What a user can set once for all runs.**

  Settings come from a file, over which environment variables are laid. The file is given on the
  command line or is the user's own, which may be missing. In one of the formats it reads:

      [defaults]
      project = "Shop"

      [output]
      no_color = true

  `STENCIL_DEFAULTS__PROJECT` sets the same value: the letter case of a variable does not count, and
  two underscores stand for the dot between two names.
-/
import Scaffold.Host
import Scaffold.Settings.Format
import Scaffold.Settings.Place
import Scaffold.Variables

namespace Scaffold

/-- What a user has set. -/
structure Settings where
  solution : Option String := none
  src : Option String := none
  test : Option String := none
  project : Option String := none
  noColours : Bool := false
  deriving DecidableEq, Repr, Inhabited

namespace Settings

/-! ### Variables -/

/-- The characters with every two underscores made a dot. -/
def dotted : List Char → List Char
  | '_' :: '_' :: cs => '.' :: dotted cs
  | c :: cs => c :: dotted cs
  | [] => []

/-- How the variables with settings begin. -/
def variableStart : List Char := "stencil_".toList

/-- The name of the setting that a variable sets. -/
def ofVariable? (name : String) : Option String :=
  let cs := name.toList.flatMap Letter.toLower
  if variableStart.isPrefixOf cs then
    some (String.ofList (dotted (cs.drop variableStart.length)))
  else none

/-- The settings that variables hold, by their names. -/
def variableLayer (vars : Variables) : List (String × Data) :=
  vars.filterMap fun (name, value) => (ofVariable? name).map (·, .text value)

/-! ### Values -/

/-- A setting that is a text; numbers and truth values count by their spelling. -/
def text? : Option Data → Option (Option String)
  | none | some .null => some none
  | some (.text s) => some (some s)
  | some (.moment s) => some (some s)
  | some (.bool b) => some (some (if b then "true" else "false"))
  | some (.integer n) => some (some (toString n))
  | some (.real r) => some (some r.shown)
  | _ => none

/-- The truth value that a text says. -/
def switchOf? (s : String) : Option Bool :=
  let s := Text.asciiLower s
  if ["1", "true", "on", "yes"].contains s then some true
  else if ["0", "false", "off", "no"].contains s then some false
  else none

/-- A setting that is a truth value; a number counts as true unless it is zero. -/
def switch? : Option Data → Option Bool
  | none => some false
  | some (.bool b) => some b
  | some (.integer n) => some (n != 0)
  | some (.real value) => some !value.isZero
  | some (.text s) | some (.moment s) => switchOf? s
  | _ => none

/-- The values of a section's settings. A section that was not set has none of them. -/
def section? (names : List String) : Option Data → Option (List (Option Data))
  | none => some (names.map fun _ => none)
  | some (.moment _) => none
  | some d => d.record? false (names.map fun name => ⟨.defaulted, [name]⟩)

/-- The settings that a value stands for. -/
def ofData? (d : Data) : Option Settings := do
  let fields := d.fields
  let defaults ← section? ["solution", "src", "test", "project"] (fields.lookup "defaults")
  let output ← section? ["no_color"] (fields.lookup "output")
  match defaults, output with
  | [solution, src, test, project], [noColours] =>
    pure { solution := ← text? solution, src := ← text? src, test := ← text? test,
           project := ← text? project, noColours := ← switch? noColours }
  | _, _ => none

/-! ### Reading -/

/-- Why there are no settings. -/
inductive Refusal
  /-- The file is missing or broken. -/
  | unreadable (reason : String)
  /-- A setting has a value of the wrong type. -/
  | invalid
  deriving DecidableEq, Repr

namespace Refusal

/-- The wordings from the refusal to its cause. -/
def causes : Refusal → List String
  | unreadable reason => ["failed to read configuration", reason]
  | invalid => ["invalid configuration", "a setting has a value of the wrong type"]

/-- The wording of a refusal. -/
def message (r : Refusal) : String := Text.joinWith ": " r.causes

end Refusal

/-- The directory with the settings of all programs. -/
def home? (vars : Variables) (accountHome : Option String) : Option String :=
  match (vars.get? "XDG_CONFIG_HOME").filter Path.isAbsolute with
  | some path => some path
  | none =>
    (((vars.get? "HOME").filter (!·.isEmpty)).or accountHome).map (Path.join · ".config")

/-- The user's own settings file. -/
def ownPath (vars : Variables) (accountHome : Option String) : String :=
  match home? vars accountHome with
  | some path => Path.join (Path.join path "stencil") "config.toml"
  | none => ".stencil.toml"

section Reading

variable {m : Type → Type} [Monad m]

/-- The first of some paths that is a file, and what is there. -/
def firstFile (host : Host m) : List String → m (Option (String × Found))
  | [] => pure none
  | path :: rest => do
    let found ← host.look path
    if found.isFile then pure (some (path, found)) else firstFile host rest

/-- The settings of a file, by their names. A file that is not `required` may be missing, unreadable
or of an unknown format, but not broken. -/
def fileLayer (host : Host m) (path : String) (required : Bool) :
    m (Except Refusal (List (String × Data))) := do
  let missing (reason : String) : Except Refusal (List (String × Data)) :=
    if required then .error (.unreadable reason) else .ok []
  match ← firstFile host (Format.candidates path) with
  | some (path, .file text) =>
    match Format.ofPath? path with
    | none =>
      pure (missing ("configuration file \"" ++ path ++ "\" is not of a registered file format"))
    | some format =>
      match format.fields? text with
      | some fields => pure (.ok fields)
      | none => pure (.error (.unreadable ("broken configuration file \"" ++ path ++ "\"")))
  | some (path, _) => pure (missing ("unreadable configuration file \"" ++ path ++ "\""))
  | none => pure (missing ("configuration file \"" ++ path ++ "\" not found"))

/-- The settings of a run; `given` is the file named on the command line. -/
def read (host : Host m) (vars : Variables) (given : Option String) :
    m (Except Refusal Settings) := do
  let layer ← match given with
    | some path => fileLayer host path true
    | none => fileLayer host (ownPath vars (← host.accountHome)) false
  match layer with
  | .error refusal => pure (.error refusal)
  | .ok fields =>
    let d := Place.layered (Place.layered (.table []) fields) (variableLayer vars)
    match ofData? d with
    | some settings => pure (.ok settings)
    | none => pure (.error .invalid)

end Reading

end Settings

end Scaffold
