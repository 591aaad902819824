/-
  Scaffold/Usage.lean
  ===================
  **Texts about the program itself.**
-/
import Scaffold.CommandLine

namespace Scaffold.Usage

open Scaffold CommandLine

/-- The name of the program. -/
def name : String := "stencil"

/-- The version of the program. -/
def version : String := "0.1.0"

/-- What is printed for `--version`. -/
def versionText : String := name ++ " " ++ version ++ "\n"

/-- What is printed for `--help`. -/
def help : String :=
  Text.endLines
    ["Generates delete features, their tests and fakers from a domain manifest.",
     "",
     "Usage: " ++ name ++ " [OPTIONS] <COMMAND>",
     "",
     "Commands:",
     "  generate <DOMAIN_FILE>  Generate artifacts from a domain manifest [alias: g]",
     "  list                    List artifact kinds [alias: ls]",
     "  completions <SHELL>     Generate shell completions",
     "  help [COMMAND]          Print this help",
     "",
     "Options of every command:",
     "  -v, --verbose            Increase verbosity (-v, -vv, -vvv)",
     "  -q, --quiet              Suppress non-error output",
     "      --no-color           Disable colored output",
     "  -c, --config <FILE>      Configuration file path",
     "      --output-format <F>  auto, human, plain or json",
     "  -h, --help               Print this help",
     "  -V, --version            Print the version (before a command)",
     "",
     "Options of generate:",
     "      --solution <DIR>     Solution directory",
     "      --src <DIR>          Source directory",
     "      --test <DIR>         Test directory",
     "  -p, --project <NAME>     Project base name, e.g. Shop",
     "      --only <KIND>...     Only generate these artifact kinds",
     "      --dry-run            Show what would be written without writing",
     "",
     "Options of list:",
     "      --entity <NAME>      Show concrete file names for an entity"]

/-- What is printed when a command line cannot be understood. -/
def misuse : String :=
  Text.endLines
    ["error: the command line cannot be understood",
     "",
     "Usage: " ++ name ++ " [OPTIONS] <COMMAND>",
     "",
     "For more information, try '--help'."]

/-- The names of the commands, with a space between neighbours. -/
def commands : String := "generate list completions help"

/-- A script that makes a shell complete the commands. -/
def completions : Shell → String
  | .bash => "complete -W \"" ++ commands ++ "\" " ++ name ++ "\n"
  | .zsh => "#compdef " ++ name ++ "\n_arguments \"1:command:(" ++ commands ++ ")\"\n"
  | .fish => "complete -c " ++ name ++ " -f -a \"" ++ commands ++ "\"\n"
  | .powerShell =>
    "Register-ArgumentCompleter -Native -CommandName " ++ name ++ " -ScriptBlock \x7b \"" ++
      commands ++ "\" -split \" \" \x7d\n"
  | .elvish =>
    "set edit:completion:arg-completer[" ++ name ++ "] = \x7b|@words| put " ++ commands ++ " \x7d\n"

end Scaffold.Usage
