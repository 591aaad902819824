/-
  Scaffold/Summary.lean
  =====================
  **What is told about a finished run.**

  A report and the rejected entities are told in three ways: as lines for people, as one JSON value,
  and as the exit code. All three go by the same list of failures: those of the report in its order,
  then the rejected entities.
-/
import Scaffold.Batch
import Scaffold.Console
import Scaffold.Data.Json
import Scaffold.Manifest
import Scaffold.Problem

namespace Scaffold.Summary

open Scaffold

/-! ### Failures -/

/-- A failure as it is told: the entity, the kind when it is one artifact's, and the wording. -/
structure Told where
  entity : String
  kind : Option ArtifactKind
  error : String
  deriving DecidableEq, Repr

variable (report : Report) (rejected : List Rejection)

/-- Every failure of a run. -/
def failures : List Told :=
  (report.failures.map fun f => ⟨f.entity, f.kind, f.failure.message⟩) ++
    rejected.map fun r => ⟨r.name, none, r.cause.message⟩

/-- How many failures a run has. -/
def failed : Nat := report.failures.length + rejected.length

/-! ### For people -/

/-- How many files were written, or would have been. -/
def produced : Nat := if report.isDryRun then report.plannedCount else report.writtenCount

/-- The line about one artifact. -/
def outcomeLine : Outcome → Line
  | .written _ path =>
    .marked .success ((if report.isDryRun then "Would write " else "Wrote ") ++ path)
  | .planned _ path =>
    .marked .success ((if report.isDryRun then "Would write " else "Wrote ") ++ path)
  | .failed kind failure => .marked .failure (kind.name ++ ": " ++ failure.message)

/-- The lines about one definition. -/
def sectionLines (s : Section) : List Line :=
  .header s.entity ::
    match s.skipped with
    | some failure => [.marked .failure ("skipped: " ++ failure.message)]
    | none => s.artifacts.map (outcomeLine report)

/-- The line about a rejected entity. -/
def rejectionLine (r : Rejection) : Line :=
  .marked .failure (r.name ++ " rejected: " ++ r.cause.message)

/-- The last line: how many files and how many failures there are. -/
def totalLine : Line :=
  let failed := failed report rejected
  let verb := if report.isDryRun then "planned" else "written"
  .marked (if failed = 0 then .success else .warning)
    (toString (produced report) ++ " file(s) " ++ verb ++ ", " ++ toString failed ++ " failure(s)")

/-- All lines about a run. -/
def lines : List Line :=
  (if report.isDryRun then [.marked .note "Dry run: nothing will be written"] else []) ++
    (if report.sections.isEmpty && rejected.isEmpty then
      [.marked .note "The manifest declares no entities"] else []) ++
    report.sections.flatMap (sectionLines report) ++
    rejected.map rejectionLine ++ [totalLine report rejected]

/-! ### As data -/

/-- The paths that were written or would have been. -/
def paths : List String :=
  report.outcomes.filterMap fun outcome => outcome.writtenPath?.or outcome.plannedPath?

/-- A failure as a value. -/
def Told.data (t : Told) : Data :=
  .table [("entity", .text t.entity), ("artifact", Data.ofOptionalText (t.kind.map (·.name))),
    ("error", .text t.error)]

/-- A run as a value; `runId` is its name. -/
def data (runId : String) : Data :=
  .table [("run_id", .text runId), ("dry_run", .bool report.isDryRun),
    ("written", .integer report.writtenCount), ("planned", .integer report.plannedCount),
    ("paths", .list ((paths report).map .text)),
    ("failures", .list ((failures report rejected).map Told.data))]

/-! ### As an exit code -/

/-- How serious each failure of a run is. A rejected entity is a fault of the manifest. -/
def severities : List Severity :=
  (report.failures.map fun f => .ofCategory f.failure.category) ++
    rejected.map fun _ => .configuration

/-- The problem that a run ends with; none when nothing failed. -/
def problem? : Option Problem :=
  (Severity.greatest? (severities report rejected)).map
    (.generationFailed (failed report rejected))

end Scaffold.Summary
