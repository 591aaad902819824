/-
  Scaffold/Host.lean
  ==================
  **What a run asks of the machine it runs on.**

  Besides the sink that files go to, a run reads a few files and asks for its working directory. All
  of it is gathered here, in any monad, so that a run against a `Disk` is the run against the
  machine.
-/
import Scaffold.Sink

namespace Scaffold

/-- What is at a path. -/
inductive Found
  | absent
  | directory
  | file (text : String)
  /-- A file whose text cannot be read. -/
  | unreadable
  deriving DecidableEq, Repr

namespace Found

/-- Whether there is a file. -/
def isFile : Found → Bool
  | file _ | unreadable => true
  | _ => false

end Found

/-- The machine of a run. -/
structure Host (m : Type → Type) where
  sink : Sink m
  look : String → m Found
  /-- The working directory, unless it is gone. -/
  workingDirectory : m (Option String)
  /-- The home directory of the user's account. -/
  accountHome : m (Option String)
  /-- A name for this run that no other run has. -/
  runId : m String

end Scaffold
