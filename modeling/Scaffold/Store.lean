/-
  Scaffold/Store.lean
  ===================
  **Files and directories held in memory.**

  A store keeps every file once, in the order of path components, under the spelling it was first
  written by. Two spellings of one path are the same file. A directory is there once it, or
  something below it, was created; a file can be written only into a directory that is there, or
  where there is no directory to ask for.
-/
import Scaffold.Path
import Scaffold.Sink

namespace Scaffold

/-- A file in memory. -/
structure StoredFile where
  /-- The path as it was first written. -/
  path : String
  content : String
  deriving DecidableEq, Repr

/-- Files and directories in memory. -/
structure Store where
  files : List StoredFile := []
  /-- The components of every directory. -/
  directories : List (List Path.Component) := []
  /-- How many times a file was written, overwriting included. -/
  writes : Nat := 0
  deriving DecidableEq, Repr, Inhabited

namespace Store

/-- Nothing is there. -/
def empty : Store := {}

instance : EmptyCollection Store := ⟨empty⟩

/-! ### Questions -/

variable (s : Store)

/-- The file at a path. -/
def find? (path : String) : Option StoredFile := s.files.find? (Path.same ·.path path)

/-- The text of the file at a path. -/
def read? (path : String) : Option String := (s.find? path).map (·.content)

/-- Whether there is a directory at a path. -/
def hasDirectory (path : String) : Bool := s.directories.contains (Path.components path)

/-- Whether there is a file or a directory at a path. -/
def holds (path : String) : Bool := (s.find? path).isSome || s.hasDirectory path

/-- The paths of all files, in the order of their components. -/
def paths : List String := s.files.map (·.path)

/-! ### Changes -/

/-- The directories that a path with these components stands for: itself and all above it. -/
def lineage : List Path.Component → List (List Path.Component)
  | [] => []
  | c :: cs => [c] :: (lineage cs).map (c :: ·)

/-- Makes a directory and all above it. -/
def createDirectories (path : String) : Store :=
  { s with directories := lineage (Path.components path) ++ s.directories }

/-- Puts a text into files in order of their paths; a file that is there keeps its spelling. -/
def insertFile (path content : String) : List StoredFile → List StoredFile
  | [] => [⟨path, content⟩]
  | f :: fs =>
    match Path.compare path f.path with
    | .lt => ⟨path, content⟩ :: f :: fs
    | .eq => { f with content } :: fs
    | .gt => f :: insertFile path content fs

/-- Whether a file can be written at a path: there is no directory to ask for, or it is there. -/
def accepts (path : String) : Bool :=
  match Path.parent? path with
  | some parent => parent.isEmpty || s.hasDirectory parent
  | none => true

/-- Writes a file. -/
def write (path content : String) : Except Failure Store :=
  if s.accepts path then
    .ok { s with files := insertFile path content s.files, writes := s.writes + 1 }
  else .error (.emissionFailed path "Parent directory does not exist")

/-- The store as something to generate into. -/
def sink : Sink (StateM Store) where
  createDirectories path := do
    modify (·.createDirectories path)
    pure (.ok ())
  write path content := do
    match (← get).write path content with
    | .ok s => set s; pure (.ok ())
    | .error failure => pure (.error failure)
  holds path := return (← get).holds path

end Store

end Scaffold
