/-
  Scaffold/Data/Yaml/Token.lean
  =============================
  **The parts that YAML is made of.**

  Besides texts and signs there are parts without characters: where a list or a table begins and
  ends that its indentation alone tells, and where the name of a field begins.
-/
namespace Scaffold.Yaml

/-- A part of a YAML text. -/
inductive Token
  /-- The sign in front of a document. -/
  | documentStart
  /-- The sign after a document. -/
  | documentEnd
  /-- A line about the version of the format. -/
  | version
  /-- A line about what stands before tags; lines of other kinds count as one about nothing. -/
  | tagPrefix (handle start : String)
  | blockListStart
  | blockTableStart
  | blockEnd
  | listStart
  | listEnd
  | tableStart
  | tableEnd
  /-- The sign before an item of a list. -/
  | item
  | comma
  /-- In front of the name of a field. -/
  | key
  /-- In front of the value of a field. -/
  | value
  /-- A name that a value gets. -/
  | anchor (name : String)
  /-- A value by its name. -/
  | alias (name : String)
  | tag (handle suffix : String)
  | text (isPlain : Bool) (chars : List Char)
  deriving DecidableEq, Repr, Inhabited

end Scaffold.Yaml
