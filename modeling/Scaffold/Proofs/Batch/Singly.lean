/-
  Scaffold/Proofs/Batch/Singly.lean
  =================================
  **A batch is its artifacts generated one by one.**

  A batch renders and writes by itself; it does not go through the generation of a single artifact.
  The two agree: whoever builds the entities, looks up every parent key among all of them and then
  generates every kind of every entity, one call after the other (`Layout.generateEach`), makes the
  requests of the batch, leaves the sink as the batch does, and gets the results that the batch
  reports. A failure in the middle is no exception, since what the sink does is not looked into.
-/
import Scaffold.Proofs.Batch.Accounting
import Scaffold.Proofs.Batch.DryRun

namespace Scaffold

/-! ### The entities of a batch -/

/-- The name of the key of the last entity with the given name. -/
def Entity.keyAmong? (entities : List Entity) (name : String) : Option String :=
  (entities.reverse.find? (·.name == name)).map (·.key.name)

namespace Definition

/-- The entities of a batch, as far as they can be built. -/
def entities (batch : List Definition) : List Entity := batch.filterMap (·.draft.build.toOption)

/-- The entity of a definition with the keys of its parents, and its switches. -/
def resolved? (keyOf? : String → Option String) (d : Definition) : Option (Entity × Flags) :=
  d.draft.build.toOption.map fun e => (e.withParentKeys keyOf?, d.flags)

/-- The entities of a batch and their switches; parents are looked up among all of them. -/
def resolved (batch : List Definition) : List (Entity × Flags) :=
  batch.filterMap (resolved? (Entity.keyAmong? (entities batch)))

theorem keyOf?_eq_keyAmong? (batch : List Definition) :
    keyOf? batch = Entity.keyAmong? (entities batch) := by
  have hkeys : keys batch = (entities batch).map fun e => (e.name, e.key.name) :=
    (List.map_filterMap ..).symm
  have hlookup (es : List Entity) (name : String) :
      (es.map fun e => (e.name, e.key.name)).lookup name =
        (es.find? (·.name == name)).map (·.key.name) := by
    induction es with
    | nil => rfl
    | cons e es ih =>
      rw [List.map_cons, List.lookup_cons, List.find?_cons, Bool.beq_comm, ih]
      cases e.name == name <;> rfl
  funext name
  rw [keyOf?, hkeys, ← List.map_reverse, hlookup]
  rfl

end Definition

/-! ### One call after the other -/

namespace Layout

variable {m : Type → Type} [Monad m] (l : Layout) (sink : Sink m) (kinds : List ArtifactKind)

/-- Generates every kind of an entity, one call after the other; the answers by kind, under the name
of the entity. -/
def generateKinds (entity : Entity × Flags) :
    m (String × List (ArtifactKind × Except Failure String)) := do
  let results ← kinds.mapM fun kind => Prod.mk kind <$> l.generate sink entity.1 entity.2 kind
  pure (entity.1.name, results)

/-- Generates every kind of every entity of a batch. -/
def generateEach (batch : List Definition) :
    m (List (String × List (ArtifactKind × Except Failure String))) :=
  (Definition.resolved batch).mapM (l.generateKinds sink kinds)

end Layout

/-- What a report says of the answer to a single call. -/
def Outcome.ofResult : ArtifactKind × Except Failure String → Outcome
  | (kind, .ok path) => .written kind path
  | (kind, .error failure) => .failed kind failure

/-- What a report says of the answers for one entity. -/
def Section.ofResults (results : String × List (ArtifactKind × Except Failure String)) : Section :=
  { entity := results.1, artifacts := results.2.map Outcome.ofResult }

/-- The report on the answers to single calls. -/
def Report.ofResults (results : List (String × List (ArtifactKind × Except Failure String))) :
    Report :=
  { isDryRun := false, sections := results.map Section.ofResults }

/-! ### The batch agrees with the calls -/

section Agreement

variable {m : Type → Type} [Monad m] [LawfulMonad m]

/-- What is done to every answer can be done to all of them in the end. -/
theorem mapM_map_eq {α β γ : Type} (f : α → m β) (g : β → γ) (as : List α) :
    (as.mapM fun a => g <$> f a) = List.map g <$> as.mapM f := by
  induction as with
  | nil => simp
  | cons a as ih =>
    rw [List.mapM_cons, List.mapM_cons, ih]
    simp only [map_eq_pure_bind, bind_assoc, pure_bind, List.map_cons]

namespace Layout

variable (l : Layout) (sink : Sink m) (kinds : List ArtifactKind)

theorem generateOutcome_eq (e : Entity) (flags : Flags) (kind : ArtifactKind) :
    l.generateOutcome sink e flags kind =
      Outcome.ofResult <$> Prod.mk kind <$> l.generate sink e flags kind := by
  unfold generateOutcome
  simp only [map_eq_pure_bind, bind_assoc, pure_bind]
  refine bind_congr fun result => ?_
  cases result <;> rfl

/-- The section of an entity is told by the answers to its calls. -/
theorem sectionOf_eq_generateKinds {keyOf? : String → Option String} {d : Definition} {e : Entity}
    (build : d.draft.build = .ok e) :
    sectionOf keyOf? (l.generateOutcome sink) kinds d =
      Section.ofResults <$> l.generateKinds sink kinds (e.withParentKeys keyOf?, d.flags) := by
  have houtcome : l.generateOutcome sink (e.withParentKeys keyOf?) d.flags = fun kind =>
      Outcome.ofResult <$> Prod.mk kind <$> l.generate sink (e.withParentKeys keyOf?) d.flags kind :=
    funext fun kind => l.generateOutcome_eq sink _ _ kind
  rw [sectionOf_of_ok build, houtcome, mapM_map_eq, generateKinds]
  simp only [map_eq_pure_bind, bind_assoc, pure_bind]
  rfl

/-- The sections of a batch, as far as the drafts can be built, are told by the answers to the
calls. A draft that is refused makes no call. -/
theorem mapM_sectionOf (keyOf? : String → Option String) (batch : List Definition) :
    List.filter (·.skipped.isNone) <$>
        batch.mapM (sectionOf keyOf? (l.generateOutcome sink) kinds) =
      List.map Section.ofResults <$>
        (batch.filterMap (Definition.resolved? keyOf?)).mapM (l.generateKinds sink kinds) := by
  induction batch with
  | nil => simp
  | cons d batch ih =>
    cases build : d.draft.build with
    | error cause =>
      have hnone : Definition.resolved? keyOf? d = none := by
        rw [Definition.resolved?, build]
        rfl
      rw [List.mapM_cons, sectionOf_of_error build, pure_bind, List.filterMap_cons_none hnone, ← ih]
      simp only [map_eq_pure_bind, bind_assoc, pure_bind]
      rfl
    | ok e =>
      have hsome : Definition.resolved? keyOf? d = some (e.withParentKeys keyOf?, d.flags) := by
        rw [Definition.resolved?, build]
        rfl
      rw [List.mapM_cons, l.sectionOf_eq_generateKinds sink kinds build,
        List.filterMap_cons_some hsome, List.mapM_cons]
      simp only [map_bind, bind_map_left, map_pure]
      refine bind_congr fun results => ?_
      have hrest := congrArg (List.cons (Section.ofResults results) <$> ·) ih
      simp only [map_eq_pure_bind, bind_assoc, pure_bind] at hrest ⊢
      exact hrest

/-- The report of a batch, without what was skipped, is the report on the single calls. -/
theorem generateBatch_eq_generateEach (batch : List Definition) :
    Report.withoutSkipped <$> l.generateBatch sink kinds batch =
      Report.ofResults <$> l.generateEach sink kinds batch := by
  have hsections :=
    congrArg (Report.mk false <$> ·) (l.mapM_sectionOf sink kinds (Definition.keyOf? batch) batch)
  rw [Definition.keyOf?_eq_keyAmong?] at hsections
  unfold generateBatch generateEach Definition.resolved
  rw [Definition.keyOf?_eq_keyAmong?]
  simp only [map_eq_pure_bind, bind_assoc, pure_bind] at hsections ⊢
  exact hsections

end Layout

end Agreement

/-! ### Requests and states -/

namespace Layout

variable {σ : Type} (l : Layout) (sink : Sink (StateM σ)) (kinds : List ArtifactKind)

theorem records_generate (e : Entity) (flags : Flags) (kind : ArtifactKind) :
    Records (l.generate sink.traced e flags kind) (l.generate sink e flags kind) := by
  unfold generate
  cases l.render e flags kind with
  | error cause => exact Records.pure _
  | ok artifact => exact Records.bind (records_emit sink artifact) fun result => Records.pure _

theorem records_generateEach (batch : List Definition) :
    Records (l.generateEach sink.traced kinds batch) (l.generateEach sink kinds batch) := by
  refine Records.mapM (fun entity => ?_) _
  refine Records.bind (Records.mapM (fun kind => ?_) kinds) fun results => Records.pure _
  rw [map_eq_pure_bind, map_eq_pure_bind]
  exact Records.bind (l.records_generate sink _ _ kind) fun result => Records.pure _

end Layout

/-- **A batch is its artifacts generated one by one.** In every monad and for every sink, the run
that renders and writes by itself is the batch, and its report, without the drafts that were
refused, is the report on the single calls. From every state of a sink both make the same requests
in the same order and leave the sink in the same state. -/
theorem batch_is_single_calls (l : Layout) (kinds : List ArtifactKind) (batch : List Definition) :
    (∀ (m : Type → Type) [Monad m] [LawfulMonad m] (sink : Sink m),
      l.runBatch sink false kinds batch = l.generateBatch sink kinds batch ∧
      Report.withoutSkipped <$> l.generateBatch sink kinds batch =
        Report.ofResults <$> l.generateEach sink kinds batch) ∧
    ∀ (σ : Type) (sink : Sink (StateM σ)) (s : σ), ∃ calls last,
      let report := ((l.generateBatch sink kinds batch).run s).1
      let results := ((l.generateEach sink kinds batch).run s).1
      (l.generateBatch sink kinds batch).run s = (report, last) ∧
      (l.generateEach sink kinds batch).run s = (results, last) ∧
      (l.generateBatch sink.traced kinds batch).run (s, []) = (report, (last, calls)) ∧
      (l.generateEach sink.traced kinds batch).run (s, []) = (results, (last, calls)) ∧
      report.withoutSkipped = Report.ofResults results := by
  refine ⟨fun m _ _ sink => ?_, fun σ sink s => ?_⟩
  · exact ⟨l.runBatch_real sink kinds batch, l.generateBatch_eq_generateEach sink kinds batch⟩
  · have hplain := congrArg (StateT.run · s) (l.generateBatch_eq_generateEach sink kinds batch)
    have htraced := congrArg (StateT.run · (s, []))
      (l.generateBatch_eq_generateEach sink.traced kinds batch)
    obtain ⟨made, hbatch⟩ := l.generateBatch_traced sink kinds batch s []
    obtain ⟨made', heach⟩ := l.records_generateEach sink kinds batch s []
    simp only [StateT.run_map] at hplain htraced
    rw [hbatch, heach] at htraced
    obtain ⟨hreport, hlast⟩ := Prod.mk.inj hplain
    obtain ⟨-, hcalls⟩ := Prod.mk.inj (Prod.mk.inj htraced).2
    refine ⟨[] ++ made, ((l.generateBatch sink kinds batch).run s).2, rfl, ?_, hbatch, ?_, hreport⟩
    · exact Prod.ext rfl hlast.symm
    · rw [heach, hlast, hcalls]

end Scaffold
