/-
  Scaffold/Main.lean
  ==================
  **The program on a machine.**

  Everything here reads from the machine or writes to it, and nothing here decides anything: the run
  itself is `Program.run`, given the machine as a `Host`.
-/
import Scaffold.Account
import Scaffold.Program
import Scaffold.RunId

namespace Scaffold.Main

open Scaffold

/-! ### The sink -/

/-- The first line of what the machine says about an error; the rest names paths. -/
def reason (error : IO.Error) : String := (Text.splitOn '\n' (toString error)).headD ""

/-- The result of an action, or the failure that its error amounts to. -/
def attempt (failure : String → Failure) (action : IO Unit) : IO (Except Failure Unit) := do
  try
    action
    pure (.ok ())
  catch error => pure (.error (failure (reason error)))

/-- Writes a temporary file that only its owner can read. -/
def writeTemporary (path content : String) : IO Unit := do
  let handle ← IO.FS.Handle.mk path .writeNew
  IO.setAccessRights path { user := { read := true, write := true } }
  handle.putStr content
  handle.flush

/-- A new path next to a path, for a temporary file. -/
def temporaryFor (path : String) : IO String := do
  let name := ".tmp" ++ toString (← IO.rand 0 999999999)
  pure (Path.join (Path.directoryOf path) name)

/-- Writes a file by putting a complete temporary one in its place. -/
def replaceFile (path content : String) : IO (Except Failure Unit) := do
  let failed (step reason : String) : Failure :=
    .emissionFailed path ("Failed to " ++ step ++ ": " ++ reason)
  let temporary ← temporaryFor path
  match ← attempt (failed "create temporary file") (writeTemporary temporary content) with
  | .error failure => pure (.error failure)
  | .ok () =>
    let renamed ← attempt (failed "replace destination") (IO.FS.rename temporary path)
    if let .error _ := renamed then
      try IO.FS.removeFile temporary catch _ => pure ()
    pure renamed

/-- Whether there is anything at a path. -/
def holds (path : String) : IO Bool := do
  try
    discard (IO.FS.realPath path)
    pure true
  catch _ => pure false

/-- Makes a directory and all above it; the empty path needs none. -/
def createDirectories (path : String) : IO (Except Failure Unit) :=
  attempt (.directoryCreationFailed path) do
    unless path.isEmpty do IO.FS.createDirAll path

/-- The machine's disk as something to generate into. -/
def sink : Sink IO where
  createDirectories := createDirectories
  write := replaceFile
  holds := holds

/-! ### The machine -/

/-- The text of a file, unless it cannot be read. -/
def textOf? (path : String) : IO (Option String) := do
  try
    pure (some (← IO.FS.readFile path))
  catch _ => pure none

/-- What is at a path. -/
def look (path : String) : IO Found := do
  if !(← holds path) then pure .absent
  else if ← (← IO.FS.realPath path).isDir then pure .directory
  else pure ((← textOf? path).elim .unreadable .file)

/-- The home directory of the user's account. -/
def accountHome : IO (Option String) := do
  let status ← textOf? "/proc/self/status"
  let accounts ← textOf? "/etc/passwd"
  pure do Account.homeOf? (← Account.number? (← status)) (← accounts)

/-- The working directory, unless it is gone. -/
def workingDirectory : IO (Option String) := do
  try
    let directory ← IO.currentDir
    pure (some directory.toString)
  catch _ => pure none

/-- The machine. -/
def host : Host IO where
  sink := sink
  look := look
  workingDirectory := workingDirectory
  accountHome := accountHome
  runId := return RunId.ofBytes (← IO.getRandomBytes (USize.ofNat RunId.size)).toList

/-- The variables of this process. -/
def environment : IO Variables := do
  try
    let bytes ← IO.FS.readBinFile "/proc/self/environ"
    pure (Variables.ofEnvironment bytes.toList)
  catch _ => pure []

end Scaffold.Main

open Scaffold in
/-- Runs the program with the arguments of the process. -/
def main (arguments : List String) : IO UInt32 := do
  let output ← IO.getStdout
  let errors ← IO.getStderr
  let terminals : Program.Terminals :=
    { output := ← output.isTty, errors := ← errors.isTty }
  let vars ← Main.environment
  let ending ← Program.run Main.host vars terminals arguments
  output.putStr ending.output
  output.flush
  errors.putStr ending.errors
  errors.flush
  pure (UInt32.ofNat ending.exitCode)
