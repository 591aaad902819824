/-
  Scaffold/Console.lean
  =====================
  **What a run prints.**

  A run says what it has to say as `Line`s. The console decides which of them appear and how: in
  quiet mode only failures do, and colours are used only when the console has them.
-/
import Scaffold.Text

namespace Scaffold

/-! ### Colours -/

/-- A colour of a terminal. -/
inductive Colour
  | red
  | green
  | yellow
  | blue
  | cyan
  deriving DecidableEq, Repr

namespace Colour

/-- The number of a colour. -/
def code : Colour → String
  | red => "31"
  | green => "32"
  | yellow => "33"
  | blue => "34"
  | cyan => "36"

/-- A text in a colour. -/
def paint (c : Colour) (s : String) : String := "\x1b[" ++ c.code ++ "m" ++ s ++ "\x1b[39m"

/-- A text in a colour and bold. -/
def paintBold (c : Colour) (s : String) : String := "\x1b[1m" ++ c.paint s ++ "\x1b[0m"

end Colour

/-- A text that stands back. -/
def dimmed (s : String) : String := "\x1b[2m" ++ s ++ "\x1b[0m"

/-! ### Lines -/

/-- What a line is about. -/
inductive Mark
  | success
  | failure
  | warning
  | note
  deriving DecidableEq, Repr

namespace Mark

/-- The sign in front of a line. -/
def sign : Mark → String
  | success => "✓"
  | failure => "✗"
  | warning => "⚠"
  | note => "ℹ"

/-- The colour of a line. -/
def colour : Mark → Colour
  | success => .green
  | failure => .red
  | warning => .yellow
  | note => .blue

end Mark

/-- A line to print. -/
inductive Line
  | plain (text : String)
  | header (text : String)
  | marked (mark : Mark) (text : String)
  deriving DecidableEq, Repr

/-- Whether a line reports a failure. -/
def Line.isFailure : Line → Bool
  | marked .failure _ => true
  | _ => false

/-! ### Consoles -/

/-- How lines are printed. -/
structure Console where
  isQuiet : Bool := false
  hasColours : Bool := false
  deriving DecidableEq, Repr

namespace Console

variable (c : Console)

/-- A line as text. -/
def text : Line → String
  | .plain s => s
  | .header s => if c.hasColours then Colour.paintBold .cyan s else s
  | .marked mark s =>
    if c.hasColours then mark.colour.paintBold mark.sign ++ " " ++ mark.colour.paint s
    else mark.sign ++ " " ++ s

/-- Whether a line appears. -/
def shows (line : Line) : Bool := !c.isQuiet || line.isFailure

/-- The lines that appear, each with its line end. -/
def print (lines : List Line) : String := Text.endLines ((lines.filter c.shows).map c.text)

end Console

end Scaffold
