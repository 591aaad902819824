/-
  Scaffold/Proofs/Batch/Run.lean
  ==============================
  **A batch against a sink with a state, one step after the other.**

  Any sink is a sink over `StateM σ` for some type `σ` of states; what the sink will do next, its
  faults included, is part of the state. A batch then is a run: every definition is dealt with in
  the state that the one before it left, and inside a definition every kind likewise. `Runs` is that
  order as an inductive relation, so that a fact about whole batches is a fact about one step and an
  induction on the run.
-/
import Mathlib.Data.List.Forall2
import Scaffold.Batch
import Scaffold.Proofs.Refusal

namespace Scaffold

/-! ### Runs over a list -/

section Runs

variable {α β σ : Type} {f : α → StateM σ β}

/-- `Runs f s as bs s'`: from the state `s`, `f` answers the members of `as` one after the other
with `bs` and ends in the state `s'`. -/
inductive Runs (f : α → StateM σ β) : σ → List α → List β → σ → Prop
  | nil (s : σ) : Runs f s [] [] s
  | cons {s s' s'' : σ} {a : α} {b : β} {as : List α} {bs : List β}
      (step : (f a).run s = (b, s')) (rest : Runs f s' as bs s'') :
      Runs f s (a :: as) (b :: bs) s''

theorem Runs.of_mapM (f : α → StateM σ β) (s : σ) (as : List α) :
    Runs f s as ((as.mapM f).run s).1 ((as.mapM f).run s).2 := by
  induction as generalizing s with
  | nil => exact .nil s
  | cons a as ih =>
    rw [List.mapM_cons]
    exact .cons rfl (ih ((f a).run s).2)

/-- A run has no other outcome than that of `List.mapM`. -/
theorem Runs.run_mapM {s s' : σ} {as : List α} {bs : List β} (h : Runs f s as bs s') :
    (as.mapM f).run s = (bs, s') := by
  induction h with
  | nil => rfl
  | cons step _ ih =>
    rw [List.mapM_cons, StateT.run_bind, step]
    exact congrArg (fun rest => (_ :: rest.1, rest.2)) ih

/-- What each single answer satisfies, whatever state it is given in, the answers of a run do. -/
theorem Runs.forall₂ {R : α → β → Prop} (hstep : ∀ a s, R a ((f a).run s).1)
    {s s' : σ} {as : List α} {bs : List β} (h : Runs f s as bs s') : List.Forall₂ R as bs := by
  induction h with
  | nil => exact .nil
  | @cons s s' s'' a b as bs step _ ih =>
    refine .cons ?_ ih
    have hb := hstep a s
    rwa [step] at hb

theorem Runs.forall_mem {P : β → Prop} (hstep : ∀ a s, P ((f a).run s).1)
    {s s' : σ} {as : List α} {bs : List β} (h : Runs f s as bs s') : ∀ b ∈ bs, P b := by
  induction h with
  | nil => exact List.forall_mem_nil P
  | @cons s s' s'' a b as bs step _ ih =>
    have hb := hstep a s
    rw [step] at hb
    exact List.forall_mem_cons.mpr ⟨hb, ih⟩

/-- Where an invariant of the state fixes every single answer and is kept, it fixes the answers of a
run and is kept by it. -/
theorem Runs.eq_map_of_invariant {I : σ → Prop} {g : α → β} {as : List α}
    (hstep : ∀ a ∈ as, ∀ {s s' b}, (f a).run s = (b, s') → I s → b = g a ∧ I s')
    {s s' : σ} {bs : List β} (h : Runs f s as bs s') (hs : I s) : bs = as.map g ∧ I s' := by
  induction h with
  | nil => exact ⟨rfl, hs⟩
  | @cons s s₁ s' a b as bs step _ ih =>
    obtain ⟨hb, hs₁⟩ := hstep a List.mem_cons_self step hs
    obtain ⟨hbs, hs'⟩ := ih (fun other hother => hstep other (List.mem_cons_of_mem a hother)) hs₁
    rw [hbs, List.map_cons, hb]
    exact ⟨rfl, hs'⟩

end Runs

/-! ### Writing one artifact, in two steps -/

namespace Sink

variable {m : Type → Type} [Monad m]

/-- Sees to it that a directory is there. -/
def prepare (sink : Sink m) (directory : String) : m (Except Failure Unit) := do
  let held ← sink.holds directory
  if held then pure (.ok ()) else sink.createDirectories directory

/-- Hands over the text of an artifact, once its directory is there. -/
def deliver (sink : Sink m) (artifact : Rendered) : Except Failure Unit → m (Except Failure Unit)
  | .error failure => pure (.error failure)
  | .ok () => do
    let result ← sink.write artifact.path artifact.content
    pure (result.mapError (·.onWriting artifact.path))

theorem emit_eq [LawfulMonad m] (sink : Sink m) (artifact : Rendered) :
    sink.emit artifact = sink.prepare artifact.place.directory >>= sink.deliver artifact := by
  unfold emit prepare
  rw [bind_assoc]
  refine bind_congr fun held => ?_
  cases held with
  | false => rfl
  | true => rfl

end Sink

/-- The outcome of an artifact for `path`, by the answer to handing it over. -/
def Outcome.ofEmission (kind : ArtifactKind) (path : String) : Except Failure Unit → Outcome
  | .ok _ => .written kind path
  | .error failure => .failed kind failure

theorem Outcome.kind_ofEmission (kind : ArtifactKind) (path : String)
    (answer : Except Failure Unit) : (ofEmission kind path answer).kind = kind := by
  cases answer <;> rfl

section Generating

variable {m : Type → Type} [Monad m] [LawfulMonad m] {l : Layout} (sink : Sink m) {e : Entity}
  {flags : Flags} {kind : ArtifactKind}

theorem Layout.generateOutcome_of_error {cause : DomainError}
    (h : l.render e flags kind = .error cause) :
    l.generateOutcome sink e flags kind = pure (.failed kind (.domain cause)) := by
  simp only [generateOutcome, generate, h, pure_bind]

theorem Layout.generateOutcome_of_ok {artifact : Rendered}
    (h : l.render e flags kind = .ok artifact) :
    l.generateOutcome sink e flags kind =
      Outcome.ofEmission kind artifact.path <$> sink.emit artifact := by
  simp only [generateOutcome, generate, h, bind_assoc, pure_bind, ← bind_pure_comp]
  refine bind_congr fun result => ?_
  cases result with
  | error failure => rfl
  | ok _ => rfl

end Generating

/-! ### Sections -/

/-- Whether the draft of a definition can be built. -/
def Definition.builds (d : Definition) : Bool := d.draft.build.toOption.isSome

theorem Definition.builds_iff {d : Definition} :
    d.builds = true ↔ ∃ e, d.draft.build = .ok e := isSome_toOption_iff

/-- The section of a definition whose draft was refused. -/
def Section.ofRefusal (d : Definition) (cause : DomainError) : Section :=
  { entity := d.draft.name, skipped := some (.domain cause) }

/-- What dealing with one definition can be, from the state `s` to the state `s'`: its draft is
refused and nothing else happens, or every kind is dealt with in turn. -/
inductive SectionRun {σ : Type} (keyOf? : String → Option String)
    (outcome : Entity → Flags → ArtifactKind → StateM σ Outcome) (kinds : List ArtifactKind) :
    σ → Definition → Section → σ → Prop
  | refused {s : σ} {d : Definition} {cause : DomainError}
      (refusal : d.draft.build = .error cause) :
      SectionRun keyOf? outcome kinds s d (Section.ofRefusal d cause) s
  | built {s s' : σ} {d : Definition} {e : Entity} {artifacts : List Outcome}
      (build : d.draft.build = .ok e)
      (run : Runs (outcome (e.withParentKeys keyOf?) d.flags) s kinds artifacts s') :
      SectionRun keyOf? outcome kinds s d { entity := e.name, artifacts } s'

namespace Layout

section Equations

variable {m : Type → Type} [Monad m] {keyOf? : String → Option String}
  {outcome : Entity → Flags → ArtifactKind → m Outcome} {kinds : List ArtifactKind}
  {d : Definition}

theorem sectionOf_of_error {cause : DomainError} (h : d.draft.build = .error cause) :
    sectionOf keyOf? outcome kinds d = pure (Section.ofRefusal d cause) := by
  simp only [sectionOf, h, Section.ofRefusal]

theorem sectionOf_of_ok {e : Entity} (h : d.draft.build = .ok e) :
    sectionOf keyOf? outcome kinds d = (do
      let artifacts ← kinds.mapM (outcome (e.withParentKeys keyOf?) d.flags)
      pure { entity := e.name, artifacts }) := by
  simp only [sectionOf, h]

end Equations

/-- The section of one definition in a plan. -/
def planSection (l : Layout) (keyOf? : String → Option String) (kinds : List ArtifactKind)
    (d : Definition) : Section :=
  match d.draft.build with
  | .error cause => Section.ofRefusal d cause
  | .ok e =>
    { entity := e.name
      artifacts := kinds.map (l.planOutcome (e.withParentKeys keyOf?) d.flags) }

theorem isNone_skipped_planSection (l : Layout) (keyOf? : String → Option String)
    (kinds : List ArtifactKind) (d : Definition) :
    (l.planSection keyOf? kinds d).skipped.isNone = d.builds := by
  unfold planSection Definition.builds
  cases d.draft.build with
  | error cause => rfl
  | ok e => rfl

theorem sections_planBatch (l : Layout) (kinds : List ArtifactKind) (batch : List Definition) :
    (l.planBatch kinds batch).sections =
      batch.map (l.planSection (Definition.keyOf? batch) kinds) := by
  refine List.map_congr_left fun d _ => ?_
  unfold planSection
  cases h : d.draft.build with
  | error cause => rw [sectionOf_of_error h]; rfl
  | ok e =>
    rw [sectionOf_of_ok h]
    simp [List.mapM_pure]

end Layout

section Running

variable {σ : Type} {keyOf? : String → Option String}
  {outcome : Entity → Flags → ArtifactKind → StateM σ Outcome} {kinds : List ArtifactKind}

theorem SectionRun.of_step {d : Definition} {s s' : σ} {r : Section}
    (step : (Layout.sectionOf keyOf? outcome kinds d).run s = (r, s')) :
    SectionRun keyOf? outcome kinds s d r s' := by
  cases h : d.draft.build with
  | error cause =>
    rw [Layout.sectionOf_of_error h] at step
    cases step
    exact .refused h
  | ok e =>
    rw [Layout.sectionOf_of_ok h] at step
    cases step
    exact .built h (Runs.of_mapM _ s kinds)

/-- The sections of a batch come about in a run, each from the state that the one before it left. -/
theorem Layout.runs_generateBatch (l : Layout) (sink : Sink (StateM σ)) (kinds : List ArtifactKind)
    (batch : List Definition) (s : σ) :
    Runs (sectionOf (Definition.keyOf? batch) (l.generateOutcome sink) kinds) s batch
      ((l.generateBatch sink kinds batch).run s).1.sections
      ((l.generateBatch sink kinds batch).run s).2 :=
  Runs.of_mapM _ s batch

end Running

end Scaffold
