/-
  Scaffold/Proofs/Batch/Accounting.lean
  =====================================
  **A report accounts for every definition, and failures stay where they arise.**

  `Section.Reports` says what a report holds for one definition; `Report.Accounts` what follows for
  the counts and the list of failures. Both hold of every plan and of every run, whatever the sink
  does. A definition that cannot be built also leaves no trace elsewhere: without it, the other
  sections, the requests and the state of the sink are the same (`isolation_and_accounting`).
-/
import Scaffold.Proofs.Batch.Trace
import Scaffold.Proofs.Entity.Building

namespace Scaffold

/-! ### What a report says about one definition -/

/-- What a report holds for a definition: the refusal of the draft under the raw name, without
artifacts, or under the name in PascalCase one outcome for each requested kind, in that order. -/
inductive Section.Reports (kinds : List ArtifactKind) (d : Definition) : Section → Prop
  | skipped {cause : DomainError} (refusal : d.draft.build = .error cause) :
      Reports kinds d
        { entity := d.draft.name, skipped := some (.domain cause), artifacts := [] }
  | built {e : Entity} {artifacts : List Outcome} (build : d.draft.build = .ok e)
      (per_kind : artifacts.map (·.kind) = kinds) :
      Reports kinds d { entity := Name.pascal d.draft.name, skipped := none, artifacts }

namespace Section.Reports

variable {kinds : List ArtifactKind} {d : Definition} {s : Section}

theorem length_artifacts (h : s.Reports kinds d) :
    s.artifacts.length = if d.builds then kinds.length else 0 := by
  cases h with
  | skipped refusal => simp [Definition.builds, refusal, Except.toOption]
  | built build per_kind =>
    simp [Definition.builds, build, Except.toOption, ← per_kind]

end Section.Reports

/-- The failure entry of an outcome under the given name, when it is a failure. -/
def Outcome.entry? (entity : String) : Outcome → Option FailureEntry
  | .failed kind failure => some ⟨entity, some kind, failure⟩
  | _ => none

/-- The entries of one section: the refusal of the draft alone, or those of its artifacts. -/
def Section.entries (s : Section) : List FailureEntry :=
  match s.skipped with
  | some failure => [⟨s.entity, none, failure⟩]
  | none => s.artifacts.filterMap (Outcome.entry? s.entity)

/-- What a report says about the batch that it is of. -/
structure Report.Accounts (r : Report) (kinds : List ArtifactKind) (batch : List Definition) :
    Prop where
  /-- One section for each definition, in order. -/
  sections : List.Forall₂ (fun d s => s.Reports kinds d) batch r.sections
  /-- One outcome for each kind of each definition that builds. -/
  total : r.writtenCount + r.plannedCount + r.failedCount =
    kinds.length * (batch.filter Definition.builds).length
  /-- The failures are those of the sections, in order. -/
  failures_eq : r.failures = r.sections.flatMap Section.entries
  failures_length : r.failures.length = r.failedCount + r.skipped.length
  hasFailures_iff : r.hasFailures = true ↔ r.failures ≠ []

/-! ### Counting -/

theorem Outcome.counted_once (o : Outcome) :
    ((if o.writtenPath?.isSome then 1 else 0) + (if o.plannedPath?.isSome then 1 else 0) +
      if o.failure?.isSome then 1 else 0) = 1 := by
  cases o <;> rfl

/-- Every outcome is counted once. -/
theorem Report.count_outcomes (r : Report) :
    r.writtenCount + r.plannedCount + r.failedCount = r.outcomes.length := by
  unfold writtenCount plannedCount failedCount
  induction r.outcomes with
  | nil => rfl
  | cons o outcomes ih =>
    have ho := o.counted_once
    simp only [List.countP_cons, List.length_cons]
    omega

theorem Section.entries_eq (s : Section) (h : s.skipped.isSome = true → s.artifacts = []) :
    s.entries = s.failures := by
  have hentry : ∀ outcome : Outcome, outcome.entry? s.entity =
      outcome.failure?.map fun failure => ⟨s.entity, some outcome.kind, failure⟩ := by
    intro outcome
    cases outcome <;> rfl
  unfold entries failures
  cases hskip : s.skipped with
  | none => simp [hentry]
  | some failure => simp [h (by simp [hskip])]

theorem Section.length_failures (s : Section) :
    s.failures.length = s.artifacts.countP (·.failure?.isSome) + s.skipped.isSome.toNat := by
  have hfailed : ∀ artifacts : List Outcome,
      (artifacts.filterMap fun outcome => outcome.failure?.map fun failure =>
        (⟨s.entity, some outcome.kind, failure⟩ : FailureEntry)).length =
      artifacts.countP (·.failure?.isSome) := by
    intro artifacts
    simp [List.length_filterMap_eq_countP]
  unfold failures
  rw [List.length_append, List.length_map, hfailed, Nat.add_comm]
  cases s.skipped <;> rfl

theorem Report.length_failures (r : Report) :
    r.failures.length = r.failedCount + r.skipped.length := by
  unfold failures failedCount outcomes skipped
  induction r.sections with
  | nil => rfl
  | cons s sections ih =>
    simp only [List.flatMap_cons, List.length_append, List.countP_append, Section.length_failures,
      List.filter_cons, ih]
    cases s.skipped.isSome <;> simp <;> omega

theorem Report.hasFailures_iff (r : Report) : r.hasFailures = true ↔ r.failures ≠ [] := by
  have hlength := r.length_failures
  simp only [hasFailures, Bool.or_eq_true, decide_eq_true_eq, Bool.not_eq_true',
    List.isEmpty_eq_false_iff, ← List.length_pos_iff]
  omega

section Sections

variable {kinds : List ArtifactKind} {batch : List Definition} {sections : List Section}

/-- Every definition that builds has one outcome for each kind, every other one has none. -/
theorem length_artifacts_of_reports
    (h : List.Forall₂ (fun d s => Section.Reports kinds d s) batch sections) :
    (sections.flatMap (·.artifacts)).length =
      kinds.length * (batch.filter Definition.builds).length := by
  induction h with
  | nil => rfl
  | @cons d s batch sections hd _ ih =>
    rw [List.flatMap_cons, List.length_append, ih, hd.length_artifacts, List.filter_cons]
    by_cases hbuilds : d.builds = true
    · simp only [hbuilds, if_true, List.length_cons, Nat.mul_succ]
      omega
    · simp [hbuilds]

/-- A refused draft has no artifacts, so its section has no failure but the refusal. -/
theorem failures_of_reports
    (h : List.Forall₂ (fun d s => Section.Reports kinds d s) batch sections) :
    sections.flatMap Section.failures = sections.flatMap Section.entries := by
  induction h with
  | nil => rfl
  | @cons d s batch sections hd _ ih =>
    rw [List.flatMap_cons, List.flatMap_cons, ih, Section.entries_eq s]
    intro hskipped
    cases hd with
    | skipped _ => rfl
    | built _ _ => cases hskipped

end Sections

/-- The counts and the failures follow from what the single sections report. -/
theorem Report.accounts_of_sections {r : Report} {kinds : List ArtifactKind}
    {batch : List Definition}
    (h : List.Forall₂ (fun d s => Section.Reports kinds d s) batch r.sections) :
    r.Accounts kinds batch where
  sections := h
  total := r.count_outcomes.trans (length_artifacts_of_reports h)
  failures_eq := failures_of_reports h
  failures_length := r.length_failures
  hasFailures_iff := r.hasFailures_iff

/-! ### Every plan and every run -/

namespace Layout

variable {σ : Type} (l : Layout) (sink : Sink (StateM σ)) (kinds : List ArtifactKind)
  (batch : List Definition)

theorem kind_planOutcome (e : Entity) (flags : Flags) (kind : ArtifactKind) :
    (l.planOutcome e flags kind).kind = kind := by
  unfold planOutcome
  cases l.render e flags kind <;> rfl

theorem kind_generateOutcome (e : Entity) (flags : Flags) (kind : ArtifactKind) (s : σ) :
    ((l.generateOutcome sink e flags kind).run s).1.kind = kind := by
  cases hrender : l.render e flags kind with
  | error cause =>
    rw [generateOutcome_of_error sink hrender]
    rfl
  | ok artifact =>
    rw [generateOutcome_of_ok sink hrender, StateT.run_map]
    exact Outcome.kind_ofEmission kind artifact.path _

theorem accounts_planBatch : (l.planBatch kinds batch).Accounts kinds batch := by
  refine Report.accounts_of_sections ?_
  rw [sections_planBatch, List.forall₂_map_right_iff, List.forall₂_same]
  intro d _
  unfold planSection
  cases h : d.draft.build with
  | error cause => exact .skipped h
  | ok e =>
    simp only [(Draft.describes_of_build h).name]
    exact .built h (by simp [Function.comp_def, kind_planOutcome])

theorem reports_of_sectionRun {keyOf? : String → Option String} {d : Definition} {r : Section}
    {s s' : σ} (h : SectionRun keyOf? (l.generateOutcome sink) kinds s d r s') :
    r.Reports kinds d := by
  cases h with
  | refused refusal => exact .skipped refusal
  | @built _ _ e artifacts build run =>
    rw [(Draft.describes_of_build build).name]
    have hkinds : List.Forall₂ (fun kind o => kind = Outcome.kind o) kinds artifacts :=
      run.forall₂ fun kind s => (kind_generateOutcome l sink _ _ kind s).symm
    rw [← List.forall₂_map_right_iff, List.forall₂_eq_eq_eq] at hkinds
    exact .built build hkinds.symm

theorem accounts_generateBatch (s : σ) :
    ((l.generateBatch sink kinds batch).run s).1.Accounts kinds batch := by
  refine Report.accounts_of_sections ((l.runs_generateBatch sink kinds batch s).forall₂ ?_)
  intro d s
  generalize hstep :
    (sectionOf (Definition.keyOf? batch) (l.generateOutcome sink) kinds d).run s = answer
  rcases answer with ⟨r, s'⟩
  exact reports_of_sectionRun l sink kinds (SectionRun.of_step hstep)

end Layout

/-! ### Leaving out what cannot be built -/

/-- The report without the sections of drafts that were refused. -/
def Report.withoutSkipped (r : Report) : Report :=
  { r with sections := r.sections.filter (·.skipped.isNone) }

/-- Only definitions that build give the batch a key. -/
theorem Definition.keyOf?_filter_builds (batch : List Definition) :
    Definition.keyOf? (batch.filter builds) = Definition.keyOf? batch := by
  have hkeys : Definition.keys (batch.filter builds) = Definition.keys batch := by
    unfold keys
    rw [List.filterMap_filter]
    refine List.filterMap_congr fun d _ => ?_
    unfold builds
    cases d.draft.build <;> rfl
  funext name
  rw [keyOf?, keyOf?, hkeys]

section Isolation

variable {σ : Type} {keyOf? : String → Option String}
  {outcome : Entity → Flags → ArtifactKind → StateM σ Outcome} {kinds : List ArtifactKind}

/-- A definition that cannot be built neither changes the state nor what happens after it. -/
theorem Runs.filter_builds {s s' : σ} {batch : List Definition} {sections : List Section}
    (h : Runs (Layout.sectionOf keyOf? outcome kinds) s batch sections s') :
    Runs (Layout.sectionOf keyOf? outcome kinds) s (batch.filter Definition.builds)
      (sections.filter (·.skipped.isNone)) s' := by
  induction h with
  | nil s => exact .nil s
  | @cons s s₁ s' d section' batch sections step _ ih =>
    cases SectionRun.of_step step with
    | refused refusal =>
      have hnot : d.builds = false := by simp [Definition.builds, refusal, Except.toOption]
      simpa [hnot, Section.ofRefusal] using ih
    | built build run =>
      have hbuilds : d.builds = true := Definition.builds_iff.mpr ⟨_, build⟩
      rw [List.filter_cons_of_pos hbuilds, List.filter_cons_of_pos rfl]
      exact .cons step ih

theorem Layout.planBatch_filter (l : Layout) (kinds : List ArtifactKind)
    (batch : List Definition) :
    l.planBatch kinds (batch.filter Definition.builds) =
      (l.planBatch kinds batch).withoutSkipped := by
  have hsections : (l.planBatch kinds (batch.filter Definition.builds)).sections =
      (l.planBatch kinds batch).sections.filter (·.skipped.isNone) := by
    have hbuilds : batch.filter Definition.builds = batch.filter
        ((·.skipped.isNone) ∘ l.planSection (Definition.keyOf? batch) kinds) := by
      refine List.filter_congr fun d _ => ?_
      rw [Function.comp_apply, isNone_skipped_planSection]
    rw [sections_planBatch, sections_planBatch, Definition.keyOf?_filter_builds, List.filter_map,
      ← hbuilds]
  exact congrArg (Report.mk true) hsections

theorem Layout.generateBatch_filter (l : Layout) (sink : Sink (StateM σ))
    (kinds : List ArtifactKind) (batch : List Definition) (s : σ) :
    (l.generateBatch sink kinds (batch.filter Definition.builds)).run s =
      ((((l.generateBatch sink kinds batch).run s).1.withoutSkipped,
        ((l.generateBatch sink kinds batch).run s).2) : Report × σ) := by
  have hrun := (l.runs_generateBatch sink kinds batch s).filter_builds.run_mapM
  rw [generateBatch, StateT.run_bind, Definition.keyOf?_filter_builds, hrun]
  rfl

end Isolation

/-- **Isolation and accounting.** A plan and a run, whatever the sink does, report every definition
and every requested kind once and in order, and count and list the failures. Without the definitions
that cannot be built, the other sections, the requests and the last state of the sink are the
same. -/
theorem isolation_and_accounting {σ : Type} (l : Layout) (sink : Sink (StateM σ))
    (kinds : List ArtifactKind) (batch : List Definition) (s : σ) (calls : List Sink.Call) :
    let plan := l.planBatch kinds batch
    let run := (l.generateBatch sink kinds batch).run s
    let traced := (l.generateBatch sink.traced kinds batch).run (s, calls)
    let buildable := batch.filter Definition.builds
    plan.Accounts kinds batch ∧ run.1.Accounts kinds batch ∧
    (traced.1 = run.1 ∧ traced.2.1 = run.2) ∧
    l.planBatch kinds buildable = plan.withoutSkipped ∧
    (l.generateBatch sink.traced kinds buildable).run (s, calls) =
      ((traced.1.withoutSkipped, traced.2) : Report × σ × List Sink.Call) := by
  intro plan run traced buildable
  obtain ⟨made, hmade⟩ := l.generateBatch_traced sink kinds batch s calls
  have htraced : traced = ((run.1, (run.2, calls ++ made)) : Report × σ × List Sink.Call) := hmade
  refine ⟨l.accounts_planBatch kinds batch, l.accounts_generateBatch sink kinds batch s, ?_,
    l.planBatch_filter kinds batch, l.generateBatch_filter sink.traced kinds batch (s, calls)⟩
  rw [htraced]
  exact ⟨rfl, rfl⟩

end Scaffold
