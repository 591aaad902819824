/-
  Scaffold/Sink.lean
  ==================
  **Where generated files go.**

  A `Sink` is the three things that generation asks of the outside: make a directory, write a file,
  tell whether a path is there. The sink says what each of them does and in which monad, so that the
  same generation runs against a disk and against a `Store`.
-/
import Scaffold.Error

namespace Scaffold

/-- A place that files can be written to. -/
structure Sink (m : Type → Type) where
  /-- Makes a directory and the ones above it, as far as they are missing. -/
  createDirectories : String → m (Except Failure Unit)
  /-- Gives the file at a path its whole text, in place of the one it had. -/
  write (path content : String) : m (Except Failure Unit)
  /-- Whether there is a file or a directory at a path. -/
  holds : String → m Bool

namespace Sink

/-- A request to a sink. -/
inductive Call
  | createDirectories (path : String)
  | write (path content : String)
  | holds (path : String)
  deriving DecidableEq, Repr

/-- The path that a request is about. -/
def Call.path : Call → String
  | createDirectories path => path
  | write path _ => path
  | holds path => path

variable {m : Type → Type} [Monad m]

/-- A sink that may fail before it does anything: a request that `fault?` answers with a failure
does not reach `sink`. Told to fail on the question whether a path is there, it claims that it is.
-/
def interrupted (fault? : Call → m (Option Failure)) (sink : Sink m) : Sink m where
  createDirectories path := do
    match ← fault? (.createDirectories path) with
    | some failure => pure (.error failure)
    | none => sink.createDirectories path
  write path content := do
    match ← fault? (.write path content) with
    | some failure => pure (.error failure)
    | none => sink.write path content
  holds path := do
    match ← fault? (.holds path) with
    | some _ => pure true
    | none => sink.holds path

end Sink

end Scaffold
