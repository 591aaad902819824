/-
  Scaffold/Batch.lean
  ===================
  **Generating many entities at once.**

  A batch is a list of definitions. Every draft is built first, so that a foreign key can refer to
  the key of an entity that stands later in the batch, or to one of the batch's own. A draft that
  cannot be built is skipped and says why; an artifact that cannot be rendered or written fails by
  itself. The report has one section for each definition and, where the draft was built, one outcome
  for each requested kind.

  `planBatch` renders without a sink; `generateBatch` also writes.
-/
import Scaffold.Render
import Scaffold.Sink

namespace Scaffold

/-! ### Types -/

/-- A draft, and the switches for what is generated from it. -/
structure Definition where
  draft : Draft
  flags : Flags := {}
  deriving DecidableEq, Repr

/-- What became of one artifact. -/
inductive Outcome
  | written (kind : ArtifactKind) (path : String)
  | planned (kind : ArtifactKind) (path : String)
  | failed (kind : ArtifactKind) (failure : Failure)
  deriving DecidableEq, Repr

/-- What became of one definition. -/
structure Section where
  /-- The name of the entity; as it was given when the draft could not be built. -/
  entity : String
  /-- Why the draft could not be built. -/
  skipped : Option Failure := none
  artifacts : List Outcome := []
  deriving DecidableEq, Repr

/-- What became of a batch. -/
structure Report where
  isDryRun : Bool
  sections : List Section
  deriving DecidableEq, Repr

/-- A failure in a report: of one artifact, or of a whole entity when no kind is named. -/
structure FailureEntry where
  entity : String
  kind : Option ArtifactKind
  failure : Failure
  deriving DecidableEq, Repr

/-! ### Reading reports -/

namespace Outcome

/-- The kind that an outcome is of. -/
def kind : Outcome → ArtifactKind
  | written kind _ | planned kind _ | failed kind _ => kind

/-- The path that was written. -/
def writtenPath? : Outcome → Option String
  | written _ path => some path
  | _ => none

/-- The path that would have been written. -/
def plannedPath? : Outcome → Option String
  | planned _ path => some path
  | _ => none

/-- The failure, when there was one. -/
def failure? : Outcome → Option Failure
  | failed _ failure => some failure
  | _ => none

end Outcome

/-- The failures of a section, a skipped draft first. -/
def Section.failures (s : Section) : List FailureEntry :=
  (s.skipped.toList.map fun failure => ⟨s.entity, none, failure⟩) ++
    s.artifacts.filterMap fun outcome =>
      outcome.failure?.map fun failure => ⟨s.entity, some outcome.kind, failure⟩

namespace Report

variable (r : Report)

/-- The outcomes of all sections. -/
def outcomes : List Outcome := r.sections.flatMap (·.artifacts)

/-- How many files were written. -/
def writtenCount : Nat := r.outcomes.countP (·.writtenPath?.isSome)

/-- How many files would have been written. -/
def plannedCount : Nat := r.outcomes.countP (·.plannedPath?.isSome)

/-- How many artifacts failed. -/
def failedCount : Nat := r.outcomes.countP (·.failure?.isSome)

/-- The sections whose draft could not be built. -/
def skipped : List Section := r.sections.filter (·.skipped.isSome)

/-- Every failure, in the order of the sections. -/
def failures : List FailureEntry := r.sections.flatMap (·.failures)

/-- Whether anything failed or was skipped. -/
def hasFailures : Bool := 0 < r.failedCount || !r.skipped.isEmpty

end Report

/-! ### One artifact -/

section Writing

variable {m : Type → Type} [Monad m]

/-- A failed write as a failure to write `path`, whatever the sink called it. -/
def Failure.onWriting (path : String) : Failure → Failure
  | emissionFailed at_ reason => emissionFailed at_ reason
  | other => emissionFailed path other.message

/-- Writes an artifact, after making its directory when that is missing. -/
def Sink.emit (sink : Sink m) (artifact : Rendered) : m (Except Failure Unit) := do
  let directory := artifact.place.directory
  let ready ← if ← sink.holds directory then pure (.ok ()) else sink.createDirectories directory
  match ready with
  | .error failure => pure (.error failure)
  | .ok () =>
    let result ← sink.write artifact.path artifact.content
    pure (result.mapError (·.onWriting artifact.path))

/-- Renders and writes an artifact; the answer is its path. -/
def Layout.generate (l : Layout) (sink : Sink m) (e : Entity) (flags : Flags)
    (kind : ArtifactKind) : m (Except Failure String) :=
  match l.render e flags kind with
  | .error cause => pure (.error (.domain cause))
  | .ok artifact => do
    let result ← sink.emit artifact
    pure (result.map fun _ => artifact.path)

end Writing

/-! ### Batches -/

/-- The key property of every entity of a batch that can be built, by the entity's name. -/
def Definition.keys (batch : List Definition) : List (String × String) :=
  batch.filterMap fun d => d.draft.build.toOption.map fun e => (e.name, e.key.name)

/-- The key property of the entity with the given name; of several the last in the batch. -/
def Definition.keyOf? (batch : List Definition) (name : String) : Option String :=
  (Definition.keys batch).reverse.lookup name

namespace Layout

variable (l : Layout)

/-- The section of one definition. `keyOf?` gives the keys of the batch, `outcome` deals with one
artifact. -/
def sectionOf {m : Type → Type} [Monad m] (keyOf? : String → Option String)
    (outcome : Entity → Flags → ArtifactKind → m Outcome) (kinds : List ArtifactKind)
    (d : Definition) : m Section :=
  match d.draft.build with
  | .error cause => pure { entity := d.draft.name, skipped := some (.domain cause) }
  | .ok e => do
    let artifacts ← kinds.mapM (outcome (e.withParentKeys keyOf?) d.flags)
    pure { entity := e.name, artifacts }

/-- Renders an artifact and says where it would be written. -/
def planOutcome (e : Entity) (flags : Flags) (kind : ArtifactKind) : Outcome :=
  match l.render e flags kind with
  | .ok artifact => .planned kind artifact.path
  | .error cause => .failed kind (.domain cause)

/-- Renders every requested kind of every definition; writes nothing. -/
def planBatch (kinds : List ArtifactKind) (batch : List Definition) : Report :=
  { isDryRun := true
    sections := batch.map fun d =>
      Id.run (sectionOf (Definition.keyOf? batch)
        (fun e flags kind => pure (l.planOutcome e flags kind)) kinds d) }

variable {m : Type → Type} [Monad m]

/-- Renders and writes an artifact, and says what became of it. -/
def generateOutcome (sink : Sink m) (e : Entity) (flags : Flags) (kind : ArtifactKind) :
    m Outcome := do
  match ← l.generate sink e flags kind with
  | .ok path => pure (.written kind path)
  | .error failure => pure (.failed kind failure)

/-- Renders and writes every requested kind of every definition. -/
def generateBatch (sink : Sink m) (kinds : List ArtifactKind) (batch : List Definition) :
    m Report := do
  let sections ← batch.mapM (sectionOf (Definition.keyOf? batch) (l.generateOutcome sink) kinds)
  pure { isDryRun := false, sections }

end Layout

end Scaffold
