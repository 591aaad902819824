/-
  Scaffold/Disk.lean
  ==================
  **A disk as a value.**

  A tree of directories and files with the rules of Unix paths: every component but the last has to
  be a directory, `..` is the directory above the one reached so far, a name has at most 255 bytes
  and a path less than 4096, none of them zero. There are no links and no permissions.

  A file is written by replacing it as a whole, from a temporary file in the same directory: what is
  needed is that directory, and that no directory stands where the file should go.
-/
import Scaffold.Host
import Scaffold.Path

namespace Scaffold

/-! ### Trees -/

/-- What a place on a disk holds. -/
inductive Entry
  | directory
  | file (text : String)
  deriving DecidableEq, Repr

/-- A tree of directories and files, and the working directory. A place is the list of names from
the root down to it; the root itself has no entry. -/
structure Disk where
  entries : List (List String × Entry) := []
  working : List String := []
  deriving DecidableEq, Repr

/-- Why a path leads nowhere. -/
inductive Obstacle
  | missing
  | notDirectory
  /-- A name or a path that is too long, or one with the zero character. -/
  | badName
  deriving DecidableEq, Repr

/-- The wording of an obstacle. -/
def Obstacle.message : Obstacle → String
  | .missing => "no such file or directory"
  | .notDirectory => "not a directory, or something is in the way"
  | .badName => "invalid name"

namespace Disk

variable (d : Disk)

/-- What a place holds. -/
def entry? (place : List String) : Option Entry :=
  if place.isEmpty then some .directory else d.entries.lookup place

/-- Puts an entry at a place. -/
def put (place : List String) (entry : Entry) : Disk :=
  { d with entries := (place, entry) :: d.entries.filter (·.1 != place) }

/-! ### Paths -/

/-- Whether a name can be one. -/
def isName (name : String) : Bool := name.utf8ByteSize ≤ 255

/-- Whether a path is too long as a whole, or holds the zero character. -/
def isBadPath (path : String) : Bool := 4096 ≤ path.utf8ByteSize || path.toList.contains '\x00'

/-- The place that pieces of a path lead to from a place. The last of them may be missing. -/
def walk (place : List String) : List String → Except Obstacle (List String)
  | [] => .ok place
  | piece :: rest =>
    match d.entry? place with
    | none => .error .missing
    | some (.file _) => .error .notDirectory
    | some .directory =>
      if Path.isIdle piece then walk place rest
      else if piece == ".." then walk place.dropLast rest
      else if isName piece then walk (place ++ [piece]) rest
      else .error .badName

/-- The place that a path starts from. -/
def start (path : String) : List String := if Path.isAbsolute path then [] else d.working

/-- The place that a path leads to; there may be nothing at it. -/
def reach (path : String) : Except Obstacle (List String) :=
  if path.isEmpty then .error .missing
  else if isBadPath path then .error .badName
  else d.walk (d.start path) (Text.splitOn '/' path)

/-- What is at a path. -/
def look (path : String) : Found :=
  match d.reach path with
  | .error _ => .absent
  | .ok place =>
    match d.entry? place with
    | none => .absent
    | some .directory => .directory
    | some (.file text) => .file text

/-- Whether there is a directory at a path. -/
def isDirectory (path : String) : Bool := d.look path == .directory

/-- Whether there is anything at a path. -/
def holds (path : String) : Bool := d.look path != .absent

/-! ### Changes -/

/-- The pieces of a path without the empty ones at its end. -/
def trimmedPieces (path : String) : List String :=
  ((Text.splitOn '/' path).reverse.dropWhile (·.isEmpty)).reverse

/-- Makes one directory. -/
def makeDirectory (path : String) : Except Obstacle Disk := do
  if isBadPath path then .error .badName
  let pieces := trimmedPieces path
  let above ← d.walk (d.start path) (pieces.dropLast ++ [""])
  match pieces.getLast? with
  | none => .error .notDirectory
  | some name =>
    if Path.isIdle name || name == ".." then .error .notDirectory
    else if !isName name then .error .badName
    else match d.entry? (above ++ [name]) with
      | some _ => .error .notDirectory
      | none => .ok (d.put (above ++ [name]) .directory)

/-- Makes the first of some directories, each inside the next, and the ones that it needs. The
directories that were made stay when a later one cannot be. -/
def makeAll : List String → Disk → Except Obstacle Unit × Disk
  | [], d => (.error .missing, d)
  | path :: above, d =>
    if path.isEmpty then (.ok (), d)
    else match d.makeDirectory path with
      | .ok d => (.ok (), d)
      | .error .missing =>
        match makeAll above d with
        | (.error o, d) => (.error o, d)
        | (.ok (), d) =>
          match d.makeDirectory path with
          | .ok d => (.ok (), d)
          | .error o => (if d.isDirectory path then .ok () else .error o, d)
      | .error o => (if d.isDirectory path then .ok () else .error o, d)

/-- Makes a directory and all above it. -/
def createDirectories (path : String) : Except Failure Unit × Disk :=
  let (result, d) := makeAll (Path.ancestors path) d
  (result.mapError fun o => .directoryCreationFailed path o.message, d)

/-- Whether a path ends with a name, so that a file can be at it. -/
def endsWithName (path : String) : Bool :=
  match (Text.splitOn '/' path).getLast? with
  | some piece => !Path.isIdle piece && piece != ".."
  | none => false

/-- Writes a file, in place of the one that is there. -/
def write (path content : String) : Except Failure Disk :=
  if !d.isDirectory (Path.directoryOf path) then
    .error (.emissionFailed path "Failed to create temporary file: no such directory")
  else if !endsWithName path then
    .error (.emissionFailed path "Failed to replace destination: not the name of a file")
  else match d.reach path with
    | .error o => .error (.emissionFailed path ("Failed to replace destination: " ++ o.message))
    | .ok place =>
      if d.entry? place == some .directory then
        .error (.emissionFailed path "Failed to replace destination: is a directory")
      else .ok (d.put place (.file content))

/-! ### The disk as a sink -/

/-- The disk as something to generate into. -/
def sink : Sink (StateM Disk) where
  createDirectories path := do
    let (result, d) := (← get).createDirectories path
    set d
    pure result
  write path content := do
    match (← get).write path content with
    | .ok d => set d; pure (.ok ())
    | .error failure => pure (.error failure)
  holds path := return (← get).holds path

/-- The disk as the machine of a run. -/
def host (accountHome : Option String) (runId : String) : Host (StateM Disk) where
  sink := sink
  look path := return (← get).look path
  workingDirectory := return some ("/" ++ Text.joinWith "/" (← get).working)
  accountHome := pure accountHome
  runId := pure runId

/-! ### Listing -/

/-- The path of a place from a directory above it. -/
def below? (base place : List String) : Option String :=
  if base.isPrefixOf place && base.length < place.length then
    some (Text.joinWith "/" (place.drop base.length))
  else none

/-- Whether nothing is inside a place. -/
def isEmptyDirectory (place : List String) : Bool :=
  !d.entries.any fun (other, _) => (below? place other).isSome

/-- Every file below a place with its text, and every empty directory, its path ending in `/`, with
none. -/
def listing (base : List String) : List (String × Option String) :=
  d.entries.filterMap fun (place, entry) =>
    (below? base place).bind fun path =>
      match entry with
      | .file text => some (path, some text)
      | .directory => if d.isEmptyDirectory place then some (path ++ "/", none) else none

end Disk

end Scaffold
