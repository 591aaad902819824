/-
  Scaffold/Proofs/Batch/Faults.lean
  =================================
  **What a run leaves in a store that its sink does not always reach.**

  A sink in front of a store hands a request on, or refuses it and leaves the store alone; which of
  the two, and when, is its own affair (`Sink.InFrontOf`). The store then holds what the report says
  was written and nothing else (`no_partial_or_lost_write`).

  The argument is a simulation. A relation `R s written s'` between two states and the artifacts
  written in between is *carried* by a sink when every single request keeps it (`Sink.Carries`); a
  carried relation holds over a whole batch, with the artifacts that the report says were written.
-/
import Scaffold.Proofs.Batch.Trace
import Scaffold.Proofs.Store

namespace Scaffold

variable {σ : Type}

/-! ### Sinks in front of a store -/

namespace Sink

/-- A request is handed on to the store, or refused with any failure and the store left alone. -/
def ForwardsOrRefuses (memory : σ → Store) (request : StateM σ (Except Failure Unit))
    (stored : StateM Store (Except Failure Unit)) : Prop :=
  ∀ s,
    ((request.run s).1 = (stored.run (memory s)).1 ∧
      memory (request.run s).2 = (stored.run (memory s)).2) ∨
    ((∃ failure, (request.run s).1 = .error failure) ∧ memory (request.run s).2 = memory s)

/-- A sink in front of the store that `memory` finds in its state. Nothing is said about when it
refuses, nor about what it answers to the question whether a path is there. -/
structure InFrontOf (sink : Sink (StateM σ)) (memory : σ → Store) : Prop where
  createDirectories : ∀ path, ForwardsOrRefuses memory (sink.createDirectories path)
    (Store.sink.createDirectories path)
  write : ∀ path content, ForwardsOrRefuses memory (sink.write path content)
    (Store.sink.write path content)
  holds : ∀ path s, memory ((sink.holds path).run s).2 = memory s

/-- A store is in front of itself. -/
theorem inFrontOf_self : Store.sink.InFrontOf id where
  createDirectories _ _ := .inl ⟨rfl, rfl⟩
  write _ _ _ := .inl ⟨rfl, rfl⟩
  holds _ _ := rfl

/-- A request that a fault may come before. -/
theorem ForwardsOrRefuses.interrupted {memory : σ → Store} {fault : StateM σ (Option Failure)}
    {request : StateM σ (Except Failure Unit)} {stored : StateM Store (Except Failure Unit)}
    (hfault : ∀ s, memory (fault.run s).2 = memory s)
    (h : ForwardsOrRefuses memory request stored) :
    ForwardsOrRefuses memory
      (do match ← fault with
          | some failure => pure (.error failure)
          | none => request) stored := by
  intro s
  have hs := hfault s
  rw [StateT.run_bind]
  rcases hrun : fault.run s with ⟨answer, s'⟩
  rw [hrun] at hs
  cases answer with
  | some failure => exact .inr ⟨⟨failure, rfl⟩, hs⟩
  | none =>
    have hstep := h s'
    rw [hs] at hstep
    exact hstep

/-- Faults that leave the store alone keep a sink in front of it. -/
theorem InFrontOf.interrupted {sink : Sink (StateM σ)} {memory : σ → Store}
    {fault? : Call → StateM σ (Option Failure)}
    (hfault : ∀ call s, memory ((fault? call).run s).2 = memory s) (h : sink.InFrontOf memory) :
    (sink.interrupted fault?).InFrontOf memory where
  createDirectories path := .interrupted (hfault _) (h.createDirectories path)
  write path content := .interrupted (hfault _) (h.write path content)
  holds path s := by
    have hs := hfault (.holds path) s
    unfold Sink.interrupted
    rw [StateT.run_bind]
    rcases hrun : (fault? (.holds path)).run s with ⟨answer, s'⟩
    rw [hrun] at hs
    cases answer with
    | some failure => exact hs
    | none => exact (h.holds path s').trans hs

end Sink

/-! ### The artifacts behind a report -/

namespace Layout

variable (l : Layout)

/-- The artifact that an outcome says was written. -/
def written? (e : Entity) (flags : Flags) : Outcome → Option Rendered
  | .written kind _ => (l.render e flags kind).toOption
  | _ => none

/-- The artifacts that the section of a definition says were written. -/
def writtenOf (keyOf? : String → Option String) (d : Definition) (s : Section) : List Rendered :=
  match d.draft.build with
  | .error _ => []
  | .ok e => s.artifacts.filterMap (l.written? (e.withParentKeys keyOf?) d.flags)

/-- The artifacts that the report on a batch says were written, in the order of the report. -/
def written (batch : List Definition) (r : Report) : List Rendered :=
  (batch.zip r.sections).flatMap fun (d, s) => l.writtenOf (Definition.keyOf? batch) d s

end Layout

/-! ### Relations that a sink carries -/

/-- The artifact when its text was accepted, and otherwise none. -/
def Rendered.accepted (artifact : Rendered) : Except Failure Unit → List Rendered
  | .ok _ => [artifact]
  | .error _ => []

/-- Every request of a sink keeps `R`, which relates two states and what was written in between. -/
structure Sink.Carries (sink : Sink (StateM σ)) (R : σ → List Rendered → σ → Prop) : Prop where
  refl : ∀ s, R s [] s
  trans : ∀ {s s' s'' written written'},
    R s written s' → R s' written' s'' → R s (written ++ written') s''
  createDirectories : ∀ path s, R s [] ((sink.createDirectories path).run s).2
  write : ∀ (artifact : Rendered) s,
    R s (artifact.accepted ((sink.write artifact.path artifact.content).run s).1)
      ((sink.write artifact.path artifact.content).run s).2
  holds : ∀ path s, R s [] ((sink.holds path).run s).2

namespace Sink.Carries

variable {sink : Sink (StateM σ)} {R : σ → List Rendered → σ → Prop} {s s' : σ}

theorem prepare (h : sink.Carries R) (directory : String) (s : σ) :
    R s [] ((sink.prepare directory).run s).2 := by
  have hholds := h.holds directory s
  unfold Sink.prepare
  rw [StateT.run_bind]
  generalize (sink.holds directory).run s = answer at hholds ⊢
  rcases answer with ⟨held, s'⟩
  cases held with
  | true => exact hholds
  | false => exact h.trans hholds (h.createDirectories directory s')

theorem deliver (h : sink.Carries R) (artifact : Rendered) (ready : Except Failure Unit) (s : σ) :
    R s (artifact.accepted ((sink.deliver artifact ready).run s).1)
      ((sink.deliver artifact ready).run s).2 := by
  cases ready with
  | error failure => exact h.refl s
  | ok _ =>
    have hwrite := h.write artifact s
    unfold Sink.deliver
    rw [StateT.run_bind]
    generalize (sink.write artifact.path artifact.content).run s = answer at hwrite ⊢
    rcases answer with ⟨result, s'⟩
    -- renaming the failure does not turn it into a success
    cases result with
    | error failure => exact hwrite
    | ok _ => exact hwrite

theorem emit (h : sink.Carries R) (artifact : Rendered) (s : σ) :
    R s (artifact.accepted ((sink.emit artifact).run s).1) ((sink.emit artifact).run s).2 := by
  rw [Sink.emit_eq, StateT.run_bind]
  exact h.trans (h.prepare artifact.place.directory s) (h.deliver artifact _ _)

/-- One artifact: it is written exactly when its outcome says so. -/
theorem generateOutcome (h : sink.Carries R) (l : Layout) (e : Entity) (flags : Flags)
    (kind : ArtifactKind) (s : σ) :
    R s (l.written? e flags ((l.generateOutcome sink e flags kind).run s).1).toList
      ((l.generateOutcome sink e flags kind).run s).2 := by
  cases hrender : l.render e flags kind with
  | error cause =>
    rw [Layout.generateOutcome_of_error sink hrender]
    exact h.refl s
  | ok artifact =>
    have hwritten : ∀ answer : Except Failure Unit,
        (l.written? e flags (.ofEmission kind artifact.path answer)).toList =
          artifact.accepted answer := by
      intro answer
      cases answer <;> simp [Layout.written?, Outcome.ofEmission, hrender, Except.toOption,
        Rendered.accepted]
    rw [Layout.generateOutcome_of_ok sink hrender, StateT.run_map]
    have hemit := h.emit artifact s
    rw [← hwritten] at hemit
    exact hemit

theorem kinds (h : sink.Carries R) {l : Layout} {e : Entity} {flags : Flags}
    {kinds : List ArtifactKind} {artifacts : List Outcome}
    (run : Runs (l.generateOutcome sink e flags) s kinds artifacts s') :
    R s (artifacts.filterMap (l.written? e flags)) s' := by
  induction run with
  | nil s => exact h.refl s
  | @cons s s₁ s' kind o kinds artifacts step _ ih =>
    have hfirst := h.generateOutcome l e flags kind s
    rw [step] at hfirst
    have hboth := h.trans hfirst ih
    cases ho : l.written? e flags o <;> simpa [ho] using hboth

theorem definition (h : sink.Carries R) {l : Layout} {keyOf? : String → Option String}
    {kinds : List ArtifactKind} {d : Definition} {r : Section}
    (run : SectionRun keyOf? (l.generateOutcome sink) kinds s d r s') :
    R s (l.writtenOf keyOf? d r) s' := by
  unfold Layout.writtenOf
  cases run with
  | refused refusal =>
    rw [refusal]
    exact h.refl s
  | built build run =>
    rw [build]
    exact h.kinds run

theorem definitions (h : sink.Carries R) {l : Layout} {keyOf? : String → Option String}
    {kinds : List ArtifactKind} {batch : List Definition} {sections : List Section}
    (run : Runs (Layout.sectionOf keyOf? (l.generateOutcome sink) kinds) s batch sections s') :
    R s ((batch.zip sections).flatMap fun (d, r) => l.writtenOf keyOf? d r) s' := by
  induction run with
  | nil s => exact h.refl s
  | @cons s s₁ s' d r batch sections step _ ih =>
    exact h.trans (h.definition (SectionRun.of_step step)) ih

/-- **A carried relation holds over a batch**, with what the report says was written. -/
theorem generateBatch (h : sink.Carries R) (l : Layout) (kinds : List ArtifactKind)
    (batch : List Definition) (s : σ) :
    R s (l.written batch ((l.generateBatch sink kinds batch).run s).1)
      ((l.generateBatch sink kinds batch).run s).2 :=
  h.definitions (l.runs_generateBatch sink kinds batch s)

end Sink.Carries

/-! ### The paths in a report -/

section Paths

variable (l : Layout) (sink : Sink (StateM σ))

/-- The artifact behind an outcome belongs at the path that the outcome says was written. -/
theorem Layout.path_written? (e : Entity) (flags : Flags) (kind : ArtifactKind) (s : σ) :
    (l.written? e flags ((l.generateOutcome sink e flags kind).run s).1).map Rendered.path =
      ((l.generateOutcome sink e flags kind).run s).1.writtenPath? := by
  cases hrender : l.render e flags kind with
  | error cause =>
    rw [generateOutcome_of_error sink hrender]
    rfl
  | ok artifact =>
    have hpath : ∀ answer : Except Failure Unit,
        (l.written? e flags (.ofEmission kind artifact.path answer)).map Rendered.path =
          (Outcome.ofEmission kind artifact.path answer).writtenPath? := by
      intro answer
      cases answer <;> simp [written?, Outcome.ofEmission, hrender, Except.toOption,
        Outcome.writtenPath?]
    rw [generateOutcome_of_ok sink hrender, StateT.run_map]
    exact hpath _

theorem Layout.path_writtenOf {keyOf? : String → Option String} {kinds : List ArtifactKind}
    {d : Definition} {r : Section} {s s' : σ}
    (run : SectionRun keyOf? (l.generateOutcome sink) kinds s d r s') :
    (l.writtenOf keyOf? d r).map Rendered.path = r.artifacts.filterMap (·.writtenPath?) := by
  unfold writtenOf
  cases run with
  | refused refusal =>
    rw [refusal]
    rfl
  | @built _ _ e artifacts build run =>
    rw [build]
    have hpath : ∀ o ∈ artifacts, (l.written? (e.withParentKeys keyOf?) d.flags o).map
        Rendered.path = o.writtenPath? :=
      run.forall_mem fun kind s => l.path_written? sink _ _ kind s
    rw [List.map_filterMap]
    exact List.filterMap_congr hpath

theorem Layout.path_definitions {keyOf? : String → Option String} {kinds : List ArtifactKind}
    {batch : List Definition} {sections : List Section} {s s' : σ}
    (run : Runs (sectionOf keyOf? (l.generateOutcome sink) kinds) s batch sections s') :
    ((batch.zip sections).flatMap fun (d, r) => l.writtenOf keyOf? d r).map Rendered.path =
      (sections.flatMap (·.artifacts)).filterMap (·.writtenPath?) := by
  induction run with
  | nil s => rfl
  | @cons s s₁ s' d r batch sections step _ ih =>
    have hfirst := l.path_writtenOf sink (SectionRun.of_step step)
    rw [List.zip_cons_cons, List.flatMap_cons, List.flatMap_cons, List.map_append,
      List.filterMap_append, ih, hfirst]

/-- **The artifacts behind a report belong at the paths in it**, in the same order. -/
theorem Layout.path_written (kinds : List ArtifactKind) (batch : List Definition) (s : σ) :
    (l.written batch ((l.generateBatch sink kinds batch).run s).1).map Rendered.path =
      ((l.generateBatch sink kinds batch).run s).1.outcomes.filterMap (·.writtenPath?) :=
  l.path_definitions sink (l.runs_generateBatch sink kinds batch s)

theorem Layout.length_written (kinds : List ArtifactKind) (batch : List Definition) (s : σ) :
    (l.written batch ((l.generateBatch sink kinds batch).run s).1).length =
      ((l.generateBatch sink kinds batch).run s).1.writtenCount := by
  have hlength := congrArg List.length (l.path_written sink kinds batch s)
  rw [List.length_map, List.length_filterMap_eq_countP] at hlength
  exact hlength

end Paths

/-! ### What the store takes, and what the sink is asked to write -/

/-- The request to write an artifact. -/
def Rendered.request (artifact : Rendered) : Sink.Call := .write artifact.path artifact.content

/-- The store takes a text that it accepts, and nothing with one that it refuses. -/
theorem Store.takes_sink_write (artifact : Rendered) (s : Store) :
    s.Takes (artifact.accepted ((Store.sink.write artifact.path artifact.content).run s).1)
      ((Store.sink.write artifact.path artifact.content).run s).2 := by
  cases hwrite : s.write artifact.path artifact.content with
  | error failure =>
    have hrun : (Store.sink.write artifact.path artifact.content).run s =
        ((.error failure, s) : Except Failure Unit × Store) := by
      simp only [Store.sink, StateT.run_bind, StateT.run_get, pure_bind, hwrite]
      rfl
    rw [hrun]
    exact .refl s
  | ok s' =>
    have hrun : (Store.sink.write artifact.path artifact.content).run s =
        ((.ok (), s') : Except Failure Unit × Store) := by
      simp only [Store.sink, StateT.run_bind, StateT.run_get, pure_bind, hwrite]
      rfl
    rw [hrun]
    exact takes_of_write hwrite

/-- A sink in front of a store carries what the store takes: the store accepts a text whole or not
at all, and a refusal does not reach it. -/
theorem Sink.InFrontOf.carries {sink : Sink (StateM σ)} {memory : σ → Store}
    (h : sink.InFrontOf memory) :
    sink.Carries fun s written s' => (memory s).Takes written (memory s') where
  refl s := Store.Takes.refl (memory s)
  trans h h' := h.trans h'
  createDirectories path s := by
    rcases h.createDirectories path s with ⟨_, hmemory⟩ | ⟨_, hmemory⟩
    · rw [hmemory]
      exact ⟨rfl, rfl⟩
    · rw [hmemory]
      exact .refl _
  write artifact s := by
    rcases h.write artifact.path artifact.content s with
      ⟨hanswer, hmemory⟩ | ⟨⟨failure, hanswer⟩, hmemory⟩
    · rw [hanswer, hmemory]
      exact Store.takes_sink_write artifact (memory s)
    · rw [hanswer, hmemory]
      exact .refl _
  holds path s := by
    rw [h.holds path s]
    exact .refl _

/-- Every artifact that is written was asked to be written, with its whole text. -/
theorem Sink.carries_traced (sink : Sink (StateM σ)) :
    sink.traced.Carries fun t written t' =>
      ∃ made, t'.2 = t.2 ++ made ∧ (written.map Rendered.request).Sublist made where
  refl t := ⟨[], (List.append_nil t.2).symm, .slnil⟩
  trans := by
    rintro t t' t'' written written' ⟨made, hmade, hsub⟩ ⟨made', hmade', hsub'⟩
    refine ⟨made ++ made', ?_, ?_⟩
    · rw [hmade', hmade, List.append_assoc]
    · rw [List.map_append]
      exact hsub.append hsub'
  createDirectories path t := ⟨[.createDirectories path], rfl, List.nil_sublist _⟩
  write artifact t := by
    refine ⟨[artifact.request], rfl, ?_⟩
    cases ((sink.traced.write artifact.path artifact.content).run t).1 with
    | error failure => exact List.nil_sublist _
    | ok _ => exact List.Sublist.refl _
  holds path t := ⟨[.holds path], rfl, List.nil_sublist _⟩

/-! ### No partial and no lost write -/

/-- **What is written is what is reported.** Behind any sink in front of a store, a batch leaves the
files that were there, overridden in the order of the report by the whole text of each artifact that
the report says was written, at the path that it says; one write for each, and no file changed that
the report does not name. An artifact that failed changed no file, and the text of each one that was
written was asked to be written. -/
theorem no_partial_or_lost_write {sink : Sink (StateM σ)} {memory : σ → Store}
    (h : sink.InFrontOf memory) (l : Layout) (kinds : List ArtifactKind) (batch : List Definition)
    (s : σ) :
    let run := (l.generateBatch sink kinds batch).run s
    let traced := (l.generateBatch sink.traced kinds batch).run (s, [])
    let reported := run.1.outcomes.filterMap (·.writtenPath?)
    let written := l.written batch run.1
    let before := memory s
    let after := memory run.2
    written.map Rendered.path = reported ∧
    after.files = Store.filesAfter before.files written ∧
    (∀ path, after.read? path = Store.overridden before.read? written path) ∧
    after.writes = before.writes + run.1.writtenCount ∧
    (∀ path, (∀ other ∈ reported, Path.same other path = false) →
      after.read? path = before.read? path) ∧
    (∀ e flags kind t, ((l.generateOutcome sink e flags kind).run t).1.failure?.isSome = true →
      (memory ((l.generateOutcome sink e flags kind).run t).2).files = (memory t).files ∧
      (memory ((l.generateOutcome sink e flags kind).run t).2).writes = (memory t).writes) ∧
    (traced.1 = run.1 ∧ (written.map Rendered.request).Sublist traced.2.2) := by
  intro run traced reported written before after
  have hpaths : written.map Rendered.path = reported := l.path_written sink kinds batch s
  have htakes : before.Takes written after := h.carries.generateBatch l kinds batch s
  refine ⟨hpaths, htakes.files, htakes.read?, ?_, ?_, ?_, ?_⟩
  · rw [htakes.writes, l.length_written sink kinds batch s]
  · intro path hpath
    rw [htakes.read? path]
    refine Store.overridden_of_not_written fun artifact hartifact => ?_
    have hreported : artifact.path ∈ reported := hpaths ▸ List.mem_map_of_mem hartifact
    exact hpath artifact.path hreported
  · intro e flags kind t hfailed
    have hstep := h.carries.generateOutcome l e flags kind t
    have hnone : l.written? e flags ((l.generateOutcome sink e flags kind).run t).1 = none := by
      cases ho : ((l.generateOutcome sink e flags kind).run t).1 with
      | failed kind failure => rfl
      | written kind path => rw [ho] at hfailed; cases hfailed
      | planned kind path => rfl
    rw [hnone] at hstep
    exact ⟨hstep.files, hstep.writes⟩
  · obtain ⟨made, hmade⟩ := l.generateBatch_traced sink kinds batch s []
    have hreport : traced.1 = run.1 := congrArg Prod.fst hmade
    obtain ⟨asked, hasked, hsub⟩ := sink.carries_traced.generateBatch l kinds batch (s, [])
    refine ⟨hreport, ?_⟩
    have hwritten : l.written batch traced.1 = written := congrArg (l.written batch) hreport
    rw [hwritten] at hsub
    rw [hasked]
    exact hsub

/-- A store behind a sink that refuses a single request. -/
def Store.refusing (refused : Sink.Call) (failure : Failure) : Sink (StateM Store) :=
  Store.sink.interrupted fun call => pure (if call = refused then some failure else none)

theorem Store.inFrontOf_refusing (refused : Sink.Call) (failure : Failure) :
    (Store.refusing refused failure).InFrontOf id :=
  Sink.inFrontOf_self.interrupted fun _ _ => rfl

/-- The feature of an order replaces a file that is there under another spelling of its path, while
the directory of its fake is refused. -/
theorem written_beside_refused_directory :
    let l := Layout.conventional "/sln" "Shop"
    let sink := Store.refusing
      (.createDirectories "/sln/tests/Shop.SharedTestHelpers/Fakes/Order") .sinkLocked
    let batch : List Definition :=
      [{ draft :=
           { name := "order", properties := [{ name := "Id", type := .guid, isKey := true }] } }]
    let path := "/sln/src/Shop/Domain/Orders/Features/DeleteOrder.cs"
    let before : Store :=
      { files := [⟨"/sln//src/Shop/Domain/Orders/Features/DeleteOrder.cs", "old"⟩] }
    let run := (l.generateBatch sink [.deleteFeature, .entityFaker] batch).run before
    sink.InFrontOf id ∧
    run.1.outcomes = [.written .deleteFeature path, .failed .entityFaker .sinkLocked] ∧
    ∀ path, run.2.read? path = Store.overridden before.read? (l.written batch run.1) path := by
  refine ⟨Store.inFrontOf_refusing _ _, ?_, ?_⟩
  · decide +kernel
  · exact (no_partial_or_lost_write (Store.inFrontOf_refusing _ _) _ _ _ _).2.2.1

end Scaffold
