/-
  Scaffold/CommandLine.lean
  =========================
  **The command line.**

      stencil [options] generate MANIFEST [options]
      stencil [options] list [options]
      stencil [options] completions SHELL
      stencil help [COMMAND]

  Arguments are read one after the other, so that the first one that asks for help or cannot be
  understood decides. An option whose value is an argument of its own is looked at when the next
  option comes, the last one before a command only after the whole line. Options that every command
  knows may stand before the command and after it; where both give one, the later counts. What a
  command needs, and what excludes what, is looked at in the end.
-/
import Scaffold.Artifact

namespace Scaffold.CommandLine

open Scaffold

/-! ### What can be asked for -/

/-- How results are printed. -/
inductive OutputFormat
  /-- For people at a terminal, plain elsewhere. -/
  | automatic
  | human
  | plain
  | json
  deriving DecidableEq, Repr

namespace OutputFormat

/-- The format with the given name. -/
def ofName? (s : String) : Option OutputFormat :=
  [("auto", automatic), ("human", human), ("plain", plain), ("json", json)].lookup s

end OutputFormat

/-- The shells that completions exist for. -/
inductive Shell
  | bash
  | zsh
  | fish
  | powerShell
  | elvish
  deriving DecidableEq, Repr

namespace Shell

/-- The shell with the given name. -/
def ofName? (s : String) : Option Shell :=
  [("bash", bash), ("zsh", zsh), ("fish", fish), ("power-shell", powerShell),
   ("elvish", elvish)].lookup s

end Shell

/-- The options that every command knows, as given in one place. -/
structure Globals where
  verbosity : Nat := 0
  isQuiet : Bool := false
  noColours : Bool := false
  settings : Option String := none
  format : Option OutputFormat := none
  deriving DecidableEq, Repr

/-- The options of `generate`. -/
structure GenerateOptions where
  manifest : String
  solution : Option String := none
  src : Option String := none
  test : Option String := none
  project : Option String := none
  only : List ArtifactKind := []
  isDryRun : Bool := false
  deriving DecidableEq, Repr

/-- A command with its options. -/
inductive Command
  | generate (options : GenerateOptions)
  | list (entity : Option String)
  | completions (shell : Shell)
  deriving DecidableEq, Repr

/-- What a command line asks for. -/
structure Request where
  globals : Globals
  command : Command
  deriving DecidableEq, Repr

/-- Why no command is run. -/
inductive Halt
  /-- The command line cannot be understood. -/
  | misuse
  | help
  | version
  deriving DecidableEq, Repr

/-! ### Options -/

/-- Where an argument stands: before the command, or after one. -/
inductive Level
  | top
  | generate
  | list
  | completions
  deriving DecidableEq, Repr

/-- The command with the given name. -/
def Level.ofName? (s : String) : Option Level :=
  [("generate", generate), ("g", generate), ("list", list), ("ls", list),
   ("completions", completions)].lookup s

/-- An option. -/
inductive Opt
  | verbose
  | quiet
  | noColour
  | settings
  | outputFormat
  | help
  | version
  | solution
  | src
  | test
  | project
  | only
  | dryRun
  | entity
  deriving DecidableEq, Repr

/-- How many values an option takes. -/
inductive Arity
  | flag
  | single
  | several
  deriving DecidableEq, Repr

namespace Opt

/-- How many values an option takes. -/
def arity : Opt → Arity
  | verbose | quiet | noColour | help | version | dryRun => .flag
  | only => .several
  | _ => .single

/-- The name after two hyphens. -/
def long : Opt → String
  | verbose => "verbose"
  | quiet => "quiet"
  | noColour => "no-color"
  | settings => "config"
  | outputFormat => "output-format"
  | help => "help"
  | version => "version"
  | solution => "solution"
  | src => "src"
  | test => "test"
  | project => "project"
  | only => "only"
  | dryRun => "dry-run"
  | entity => "entity"

/-- The letter after one hyphen. -/
def short? : Opt → Option Char
  | verbose => some 'v'
  | quiet => some 'q'
  | settings => some 'c'
  | help => some 'h'
  | version => some 'V'
  | project => some 'p'
  | _ => none

end Opt

/-- The options that may stand at a level. -/
def Level.options : Level → List Opt
  | .top => [.verbose, .quiet, .noColour, .settings, .outputFormat, .help, .version]
  | .generate =>
    [.verbose, .quiet, .noColour, .settings, .outputFormat, .help, .solution, .src, .test, .project,
     .only, .dryRun]
  | .list => [.verbose, .quiet, .noColour, .settings, .outputFormat, .help, .entity]
  | .completions => [.verbose, .quiet, .noColour, .settings, .outputFormat, .help]

/-! ### Reading -/

/-- A command line under way. -/
structure Reading where
  level : Level := .top
  /-- The options before the command. -/
  outer : Globals := {}
  /-- The options after the command that every command knows. -/
  inner : Globals := {}
  manifest : Option String := none
  solution : Option String := none
  src : Option String := none
  test : Option String := none
  project : Option String := none
  only : List ArtifactKind := []
  isDryRun : Bool := false
  entity : Option String := none
  shell : Option Shell := none
  /-- The last option whose values are arguments of their own, and those it has. -/
  awaiting : Option (Opt × List String) := none
  /-- The same before the command; it is looked at after all that follows. -/
  held : Option (Opt × List String) := none
  /-- Whether only positional arguments may come. -/
  isTrailing : Bool := false

/-- A command line under way, unless it is halted. -/
abbrev Progress := Except Halt Reading

namespace Reading

variable (r : Reading)

/-- Changes the options that every command knows, where they stand. -/
def onGlobals (f : Globals → Except Halt Globals) : Progress :=
  if r.level = .top then (f r.outer).map fun outer => { r with outer }
  else (f r.inner).map fun inner => { r with inner }

/-- The first value of an option; a second one is misuse. -/
def once {α : Type} (old : Option α) (value : α) : Except Halt (Option α) :=
  if old.isSome then .error .misuse else .ok (some value)

/-- A flag that is given once; a second time is misuse. -/
def onceFlag (old : Bool) : Except Halt Bool := if old then .error .misuse else .ok true

/-- A value that has to be a path, which is not empty. -/
def path (value : String) : Except Halt String :=
  if value.isEmpty then .error .misuse else .ok value

/-- The result of a look-up, or misuse. -/
def known {α : Type} (a : Option α) : Except Halt α :=
  match a with
  | some a => .ok a
  | none => .error .misuse

/-- Takes note of a flag. -/
def takeFlag : Opt → Progress
  | .verbose => r.onGlobals fun g => .ok { g with verbosity := g.verbosity + 1 }
  | .quiet => r.onGlobals fun g => (onceFlag g.isQuiet).map fun isQuiet => { g with isQuiet }
  | .noColour =>
    r.onGlobals fun g => (onceFlag g.noColours).map fun noColours => { g with noColours }
  | .help => .error .help
  | .version => .error .version
  | .dryRun => (onceFlag r.isDryRun).map fun isDryRun => { r with isDryRun }
  | _ => .error .misuse

/-- Takes note of an option with one value. -/
def takeValue (value : String) : Opt → Progress
  | .settings => do
    let value ← path value
    r.onGlobals fun g => (once g.settings value).map fun settings => { g with settings }
  | .outputFormat => do
    let value ← known (OutputFormat.ofName? value)
    r.onGlobals fun g => (once g.format value).map fun format => { g with format }
  | .solution => do pure { r with solution := ← once r.solution (← path value) }
  | .src => do pure { r with src := ← once r.src (← path value) }
  | .test => do pure { r with test := ← once r.test (← path value) }
  | .project => do pure { r with project := ← once r.project value }
  | .entity => do pure { r with entity := ← once r.entity value }
  | _ => .error .misuse

/-- Takes note of the kinds to generate, several of them in one value with commas between. -/
def takeKinds (values : List String) : Progress := do
  let kinds ← (values.flatMap (Text.splitOn ',')).mapM fun name =>
    known (ArtifactKind.parse name).toOption
  pure { r with only := r.only ++ kinds }

/-- Takes note of an option with all its values. -/
def takeFinished (option : Opt) (values : List String) : Progress :=
  match option.arity, values with
  | .single, [value] => r.takeValue value option
  | .several, values => r.takeKinds values
  | _, _ => .error .misuse

/-- Whether an argument without hyphens is a value of the last option. -/
def isOpen : Bool :=
  match r.awaiting with
  | none => false
  | some (option, values) => values.isEmpty || option.arity = .several

/-- Takes note of the last option; it has to have a value by now. -/
def settle : Progress :=
  match r.awaiting with
  | none => .ok r
  | some (_, []) => .error .misuse
  | some (option, values) => { r with awaiting := none }.takeFinished option values

/-- Gives the last option one more value. -/
def feed (value : String) : Reading :=
  { r with awaiting := r.awaiting.map fun (option, values) => (option, values ++ [value]) }

/-- Goes on after the name of a command. -/
def enter (level : Level) : Reading := { r with level, held := r.awaiting, awaiting := none }

/-- Ends the line: takes note of the last option after the command, then of the last one before. -/
def finish : Progress := do
  let inner ← r.settle
  let outer ← { inner with level := .top, awaiting := inner.held, held := none }.settle
  pure { outer with level := inner.level }

/-- The option of this level that a test picks out. -/
def find? (p : Opt → Bool) : Option Opt := r.level.options.find? p

/-- Takes an option, with the value that is attached to it. -/
def takeOption (option : Opt) (attached : Option String) : Progress :=
  match option.arity, attached with
  | .flag, none => r.takeFlag option
  | .flag, some _ => .error .misuse
  | _, none => .ok { r with awaiting := some (option, []) }
  | .single, some value => r.takeValue value option
  | .several, some value => r.takeKinds [value]

/-- Takes an option after two hyphens, `name` or `name=value`. -/
def takeLong (cs : List Char) : Progress := do
  let name := String.ofList (cs.takeWhile (· != '='))
  let attached := match cs.dropWhile (· != '=') with
    | [] => none
    | _ :: value => some (String.ofList value)
  let option ← known (r.find? (·.long == name))
  r.takeOption option attached

/-- Takes the letters after one hyphen; those after an option with a value are the value. -/
def takeShort (r : Reading) : List Char → Progress
  | [] => .ok r
  | c :: cs =>
    match r.find? (·.short? == some c) with
    | none => .error .misuse
    | some option =>
      if option.arity = .flag then
        match r.takeFlag option with
        | .ok r => takeShort r cs
        | .error halt => .error halt
      else match cs with
        | [] => r.takeOption option none
        | '=' :: value => r.takeOption option (some (String.ofList value))
        | value => r.takeOption option (some (String.ofList value))

/-- Takes an argument without hyphens that belongs to a command. -/
def takePositional (value : String) : Progress :=
  match r.level with
  | .generate => do pure { r with manifest := ← once r.manifest (← path value) }
  | .completions => do pure { r with shell := ← once r.shell (← known (Shell.ofName? value)) }
  | .top | .list => .error .misuse

end Reading

/-- What kind of argument a text is. -/
inductive Argument
  /-- Two hyphens: only positional arguments come. -/
  | escape
  | long (cs : List Char)
  | short (cs : List Char)
  | value (text : String)

/-- The kind of an argument. A single hyphen is a value. -/
def Argument.of (s : String) : Argument :=
  match s.toList with
  | ['-', '-'] => escape
  | '-' :: '-' :: cs => long cs
  | '-' :: c :: cs => short (c :: cs)
  | _ => value s

/-- Whether help exists for the commands asked for. -/
def helps : List String → Bool
  | [] => true
  | [name] => (Level.ofName? name).isSome || name == "help"
  | _ => false

/-- Reads arguments one after the other. -/
def readArguments (r : Reading) : List String → Progress
  | [] => r.finish
  | s :: rest =>
    if r.isTrailing then do
      let r ← r.settle
      readArguments (← r.takePositional s) rest
    else match Argument.of s with
      | .escape => readArguments { r with isTrailing := true } rest
      | .long cs => do
        let r ← r.settle
        readArguments (← r.takeLong cs) rest
      | .short cs => do
        let r ← r.settle
        readArguments (← r.takeShort cs) rest
      | .value s =>
        if r.isOpen then readArguments (r.feed s) rest
        else if r.level = .top then
          match Level.ofName? s with
          | some level => readArguments (r.enter level) rest
          | none => if s == "help" && helps rest then .error .help else .error .misuse
        else do
          let r ← r.settle
          readArguments (← r.takePositional s) rest

/-! ### The whole command line -/

/-- Options given in two places as one: what stands later counts. -/
def Globals.combined (outer inner : Globals) : Globals :=
  { verbosity := if inner.verbosity = 0 then outer.verbosity else inner.verbosity
    isQuiet := inner.isQuiet || outer.isQuiet
    noColours := inner.noColours || outer.noColours
    settings := inner.settings.or outer.settings
    format := inner.format.or outer.format }

/-- Whether a run is asked to be quiet and to say more in one place. -/
def Globals.isContradictory (g : Globals) : Bool := g.isQuiet && g.verbosity != 0

/-- The command of a finished command line. -/
def Reading.command (r : Reading) : Except Halt Command :=
  match r.level with
  | .top => .error .misuse
  | .generate => do
    let manifest ← known r.manifest
    pure (.generate
      { manifest, solution := r.solution, src := r.src, test := r.test, project := r.project,
        only := r.only, isDryRun := r.isDryRun })
  | .list => .ok (.list r.entity)
  | .completions => (known r.shell).map .completions

/-- What a command line asks for. -/
def parse (arguments : List String) : Except Halt Request := do
  let r ← readArguments {} arguments
  let command ← r.command
  if r.outer.isContradictory || r.inner.isContradictory then .error .misuse
  pure { globals := r.outer.combined r.inner, command }

end Scaffold.CommandLine
