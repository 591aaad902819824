/-
  Scaffold/Data/Yaml.lean
  =======================
  **Reading YAML.**

  The tokens of a text and then their value. A text holds one document at most; one that holds none
  says an empty table.
-/
import Scaffold.Data.Yaml.Node
import Scaffold.Data.Yaml.Token.Lexer

namespace Scaffold.Yaml

/-- Whether a value can be read: a number that is beyond all numbers is none. -/
def isReadable : Data → Bool
  | .garbled => false
  | _ => true

/-- The value that a whole text says. -/
def read? (s : String) : Option Data := do
  let d ← ofTokens? (← Token.scan? s)
  guard (d.everywhere isReadable)
  pure d

end Scaffold.Yaml
