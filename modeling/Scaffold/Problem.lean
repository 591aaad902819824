/-
  Scaffold/Problem.lean
  =====================
  **Why a run ends without success, and what the user is told.**

  A problem has a severity, which decides the exit code, and is shown with its causes when the run
  is verbose, and with advice always.
-/
import Scaffold.Console
import Scaffold.Error

namespace Scaffold

/-! ### Severity -/

/-- How serious a problem is, the least serious first. -/
inductive Severity
  | usage
  | notFound
  | configuration
  | internal
  deriving DecidableEq, Repr

namespace Severity

/-- The exit code of a run that ends with such a problem. -/
def exitCode : Severity → Nat
  | usage => 2
  | notFound => 3
  | configuration => 4
  | internal => 1

/-- The place of a severity among the others. -/
def rank : Severity → Nat
  | usage => 0
  | notFound => 1
  | configuration => 2
  | internal => 3

/-- The more serious of two. -/
def max (a b : Severity) : Severity := if a.rank ≤ b.rank then b else a

/-- How serious a failure of a category is. -/
def ofCategory : Category → Severity
  | .configuration => configuration
  | .resolution => usage
  | .notFound => notFound
  | .emission | .internal => internal

/-- The most serious of some; nothing when there are none. -/
def greatest? : List Severity → Option Severity
  | [] => none
  | a :: rest => some ((greatest? rest).elim a (max a))

end Severity

/-! ### Problems -/

/-- Why a run ends without success. -/
inductive Problem
  | invalidInput (message : String)
  /-- The settings could not be read; `causes` go from the outermost to the innermost. -/
  | settings (message : String) (causes : List String)
  | core (failure : Failure)
  | generationFailed (failed : Nat) (severity : Severity)
  | system (message source : String)
  deriving DecidableEq, Repr

namespace Problem

/-- The wording of a problem. -/
def message : Problem → String
  | invalidInput text => "Invalid input: " ++ text
  | settings text _ => "Configuration error: " ++ text
  | core failure => failure.message
  | generationFailed failed _ => "Generation finished with " ++ toString failed ++ " failure(s)"
  | system text _ => "I/O error: " ++ text

/-- The wordings of what led to a problem, from the outermost to the innermost. -/
def causes : Problem → List String
  | settings _ causes => causes
  | core failure => failure.causes
  | system _ source => [source]
  | _ => []

/-- What the user can do; `settingsPath` is where settings are read from. -/
def suggestions (settingsPath : String) : Problem → List String
  | invalidInput text => ["Check your input: " ++ text, "Use --help for usage information"]
  | settings text _ =>
    ["Configuration issue: " ++ text,
     "Check your config file at " ++ settingsPath,
     "Environment overrides use the STENCIL_ prefix, e.g. STENCIL_DEFAULTS__PROJECT"]
  | core failure => failure.suggestions
  | generationFailed .. =>
    ["See the messages above for each failed entity or artifact",
     "Files that were written are complete; fix the failures and re-run"]
  | system text _ => ["I/O operation failed: " ++ text, "Check file permissions"]

/-- How serious a problem is. -/
def severity : Problem → Severity
  | invalidInput _ => .usage
  | settings .. => .configuration
  | core failure => .ofCategory failure.category
  | generationFailed _ severity => severity
  | system .. => .internal

/-- The exit code of a run that ends with a problem. -/
def exitCode (p : Problem) : Nat := p.severity.exitCode

/-! ### Wording for the user -/

/-- How to see more, told when the run is not verbose. -/
def hint : String := "Use -v / --verbose for more details."

/-- A problem as text without colours. -/
def plain (settingsPath : String) (isVerbose : Bool) (p : Problem) : String :=
  let suggestions := p.suggestions settingsPath
  "\nError: " ++ p.message ++ "\n" ++
    (if isVerbose then Text.endLines (p.causes.map ("  Caused by: " ++ ·)) else "") ++
    (if suggestions.isEmpty then ""
     else "\nSuggestions:\n" ++ Text.endLines (suggestions.map ("  " ++ ·))) ++
    (if isVerbose then "" else "\n" ++ hint ++ "\n")

/-- A problem as text with colours. -/
def coloured (settingsPath : String) (isVerbose : Bool) (p : Problem) : String :=
  let suggestions := p.suggestions settingsPath
  let cause (s : String) : String := "\n  " ++ dimmed "→" ++ " " ++ dimmed s
  "\n" ++ Colour.paintBold .red "✗" ++ " " ++ Colour.paintBold .red "Error:" ++ "\n\n" ++
    "  " ++ Colour.paint .red p.message ++ "\n" ++
    (if isVerbose then Text.endLines (p.causes.map cause) else "") ++
    (if suggestions.isEmpty then ""
     else "\n" ++ Colour.paintBold .yellow "Suggestions:" ++ "\n" ++
       Text.endLines (suggestions.map ("  " ++ ·))) ++
    (if isVerbose then "" else "\n" ++ Colour.paint .blue "ℹ" ++ " " ++ dimmed hint ++ "\n")

end Problem

end Scaffold
