/-
  Scaffold/Proofs/Batch/Refusals.lean
  ===================================
  **What is recorded when a sink refuses an artifact.**

  Two requests can be refused. When the directory is, nothing is written, and the failure is
  recorded as the sink put it. When the text is, a failure of any kind becomes one of emission at the
  path of the artifact, but an emission failure of the sink's own is kept, whatever path it names.
  `Sink.Refusal` tells the two apart, with the failure of the sink beside the one that is recorded.

  So a recorded failure need not be one of emission, nor name a path of the artifact. For directories
  that is up to the sink, and for texts up to the path in an emission failure of the sink's own
  (`Sink.Refusal.isEmissionOf_iff`).
-/
import Scaffold.Proofs.Batch.Faults
import Scaffold.Proofs.Batch.Singly
import Scaffold.Proofs.Entity.Names

namespace Scaffold

variable {σ : Type}

/-- An emission failure that names the artifact or its directory. -/
def Failure.IsEmissionOf (artifact : Rendered) (f : Failure) : Prop :=
  f.category = .emission ∧
    (f.path? = some artifact.path ∨ f.path? = some artifact.place.directory)

instance (artifact : Rendered) (f : Failure) : Decidable (f.IsEmissionOf artifact) :=
  inferInstanceAs (Decidable (_ ∧ _))

theorem Failure.onWriting_eq {f : Failure} (path : String)
    (h : ∀ other reason, f ≠ .emissionFailed other reason) :
    f.onWriting path = .emissionFailed path f.message := by
  cases f with
  | emissionFailed other reason => exact absurd rfl (h other reason)
  | _ => rfl

theorem Failure.isEmissionOf_onWriting_iff {artifact : Rendered} {f : Failure} :
    (f.onWriting artifact.path).IsEmissionOf artifact ↔
      f.IsEmissionOf artifact ∨ ∀ other reason, f ≠ .emissionFailed other reason := by
  by_cases hnamed : ∃ other reason, f = .emissionFailed other reason
  · obtain ⟨other, reason, rfl⟩ := hnamed
    constructor
    · exact .inl
    · rintro (h | h)
      · exact h
      · exact absurd rfl (h other reason)
  · have hother : ∀ other reason, f ≠ .emissionFailed other reason := fun other reason heq =>
      hnamed ⟨other, reason, heq⟩
    rw [f.onWriting_eq artifact.path hother]
    exact ⟨fun _ => .inr hother, fun _ => ⟨rfl, .inl rfl⟩⟩

namespace Sink

variable (sink : Sink (StateM σ)) {artifact : Rendered} {s t : σ} {calls : List Call}

/-- How a sink refuses an artifact, from `s`: the requests made of it, the failure that it answers
the last of them with, the failure recorded for that, and the state after it. -/
inductive Refusal (artifact : Rendered) (s : σ) : List Call → Failure → Failure → σ → Prop
  | directory {t u : σ} {own : Failure}
      (missing : (sink.holds artifact.place.directory).run s = (false, t))
      (refused : (sink.createDirectories artifact.place.directory).run t = (.error own, u)) :
      Refusal artifact s
        [.holds artifact.place.directory, .createDirectories artifact.place.directory] own own u
  | text {calls : List Call} {t u : σ} {own : Failure}
      (ready : sink.Ready artifact.place.directory s calls t)
      (refused : (sink.write artifact.path artifact.content).run t = (.error own, u)) :
      Refusal artifact s (calls ++ [artifact.request]) own (own.onWriting artifact.path) u

/-- A directory that is refused is the end of it: no text is handed over. -/
theorem traced_emit_of_refused {u : σ} {own : Failure}
    (missing : (sink.holds artifact.place.directory).run s = (false, t))
    (refused : (sink.createDirectories artifact.place.directory).run t = (.error own, u)) :
    (sink.traced.emit artifact).run (s, []) =
      (.error own, (u, [.holds artifact.place.directory,
        .createDirectories artifact.place.directory])) := by
  obtain ⟨made, answer, v, htraced, emission⟩ := sink.emission_traced artifact s []
  rw [htraced, List.nil_append]
  cases emission with
  | no_directory missing' refused' =>
    obtain ⟨-, rfl⟩ := Prod.mk.inj (missing.symm.trans missing')
    rw [refused] at refused'
    cases refused'
    rfl
  | handed_over ready write =>
    -- the directory was neither there nor made
    cases ready with
    | held held => cases held.symm.trans missing
    | made missing' made =>
      obtain ⟨-, rfl⟩ := Prod.mk.inj (missing.symm.trans missing')
      cases refused.symm.trans made

variable {sink}

/-- An artifact is not taken exactly when it is refused in one of the two ways. -/
theorem emission_error_iff {recorded : Failure} :
    sink.Emission artifact s calls (.error recorded) t ↔
      ∃ own, sink.Refusal artifact s calls own recorded t := by
  constructor
  · generalize hanswer : (Except.error recorded : Except Failure Unit) = answer
    intro h
    cases h with
    | no_directory missing refused =>
      cases hanswer
      exact ⟨recorded, .directory missing refused⟩
    | @handed_over calls u _ written ready write =>
      cases written with
      | ok _ => cases hanswer
      | error own =>
        cases hanswer
        exact ⟨own, .text ready write⟩
  · rintro ⟨own, h⟩
    cases h with
    | directory missing refused => exact .no_directory missing refused
    | text ready refused => exact .handed_over ready refused

/-- **When a refusal is recorded as one of emission.** For a directory the sink has to call it so
itself; for a text it must not name another path. -/
theorem Refusal.isEmissionOf_iff {own recorded : Failure}
    (h : sink.Refusal artifact s calls own recorded t) :
    recorded.IsEmissionOf artifact ↔ own.IsEmissionOf artifact ∨
      (artifact.request ∈ calls ∧ ∀ other reason, own ≠ .emissionFailed other reason) := by
  cases h with
  | directory missing refused =>
    constructor
    · exact .inl
    · rintro (h | ⟨hmem, -⟩)
      · exact h
      · -- a directory that is refused leaves no request for a text
        simp [Rendered.request] at hmem
  | @text calls t u own ready refused =>
    have hmem : artifact.request ∈ calls ++ [artifact.request] := by simp
    rw [Failure.isEmissionOf_onWriting_iff]
    exact or_congr_right ⟨fun h => ⟨hmem, h⟩, And.right⟩

end Sink

/-! ### One artifact and whole batches -/

/-- Generating an artifact that renders is handing it over. -/
theorem Layout.emission_generate (l : Layout) (sink : Sink (StateM σ)) {e : Entity} {flags : Flags}
    {kind : ArtifactKind} {artifact : Rendered} (h : l.render e flags kind = .ok artifact) (s : σ) :
    ∃ calls answer t,
      (l.generate sink e flags kind).run s = (answer.map fun _ => artifact.path, t) ∧
      (l.generate sink.traced e flags kind).run (s, []) =
        (answer.map fun _ => artifact.path, (t, calls)) ∧
      sink.Emission artifact s calls answer t := by
  obtain ⟨calls, answer, t, hemit, emission⟩ := sink.emission_traced artifact s []
  have htraced : (l.generate sink.traced e flags kind).run (s, []) =
      (answer.map fun _ => artifact.path, (t, calls)) := by
    simp only [generate, h, StateT.run_bind, hemit]
    rfl
  refine ⟨calls, answer, t, ?_, htraced, emission⟩
  obtain ⟨made, hrecords⟩ := l.records_generate sink e flags kind s []
  rw [htraced] at hrecords
  obtain ⟨hanswer, hrest⟩ := Prod.mk.inj hrecords
  exact Prod.ext hanswer.symm (Prod.mk.inj hrest).1.symm

/-- What is dealt with in turn is dealt with one by one, each with a part of the requests. -/
theorem InTurn.forall₂ {α β : Type} {step : σ → α → β → β → List Sink.Call → σ → Prop}
    {s t : σ} {as : List α} {ps rs : List β} {calls : List Sink.Call}
    (h : InTurn step s as ps rs calls t) :
    List.Forall₂ (fun a r => ∃ s p made t, step s a p r made t ∧ made <:+: calls) as rs := by
  induction h with
  | nil => exact .nil
  | @cons s t u a p r as ps rs calls calls' first rest ih =>
    refine .cons ⟨s, p, calls, t, first, (List.prefix_append _ _).isInfix⟩ (ih.imp ?_)
    rintro a r ⟨s, p, made, t, hstep, hmade⟩
    exact ⟨s, p, made, t, hstep, hmade.trans (List.suffix_append _ _).isInfix⟩

/-- An artifact that renders is handed over, by a part of the requests, and the outcome tells the
answer. -/
def Outcome.TellsEmission (l : Layout) (sink : Sink (StateM σ)) (e : Entity) (flags : Flags)
    (calls : List Sink.Call) (kind : ArtifactKind) (outcome : Outcome) : Prop :=
  ∀ artifact, l.render e flags kind = .ok artifact →
    ∃ s made answer t, sink.Emission artifact s made answer t ∧ made <:+: calls ∧
      outcome = .ofEmission kind artifact.path answer

theorem Outcome.Foretold.tellsEmission {l : Layout} {sink : Sink (StateM σ)} {e : Entity}
    {flags : Flags} {kind : ArtifactKind} {s t : σ} {p r : Outcome} {made calls : List Sink.Call}
    (h : Outcome.Foretold l sink e flags s kind p r made t) (hmade : made <:+: calls) :
    r.TellsEmission l sink e flags calls kind := by
  intro artifact hrender
  cases h with
  | refused render => cases render.symm.trans hrender
  | stored render emission =>
    obtain rfl := Except.ok.inj (render.symm.trans hrender)
    exact ⟨s, made, .ok (), t, emission, hmade, rfl⟩
  | @blocked _ failure _ _ render emission =>
    obtain rfl := Except.ok.inj (render.symm.trans hrender)
    exact ⟨s, made, .error failure, t, emission, hmade, rfl⟩

/-- The outcomes of a definition that was built tell the emissions, kind by kind. -/
def Section.TellsEmissions (l : Layout) (sink : Sink (StateM σ)) (keyOf? : String → Option String)
    (kinds : List ArtifactKind) (calls : List Sink.Call) (d : Definition) (r : Section) : Prop :=
  ∀ e, d.draft.build = .ok e →
    List.Forall₂ (Outcome.TellsEmission l sink (e.withParentKeys keyOf?) d.flags calls) kinds
      r.artifacts

theorem Section.Foretold.tellsEmissions {l : Layout} {sink : Sink (StateM σ)}
    {keyOf? : String → Option String} {kinds : List ArtifactKind} {s t : σ} {d : Definition}
    {p r : Section} {made calls : List Sink.Call}
    (h : Section.Foretold l sink keyOf? kinds s d p r made t) (hmade : made <:+: calls) :
    r.TellsEmissions l sink keyOf? kinds calls d := by
  intro e build
  cases h with
  | skipped refusal => cases refusal.symm.trans build
  | built build' outcomes =>
    obtain rfl := Except.ok.inj (build'.symm.trans build)
    refine outcomes.forall₂.imp ?_
    rintro kind outcome ⟨s, p, part, t, hstep, hpart⟩
    exact hstep.tellsEmission (hpart.trans hmade)

/-- A batch hands over every artifact that renders and tells every answer. The requests for one
artifact follow one another among those of the batch. -/
theorem Layout.tellsEmissions_generateBatch (l : Layout) (sink : Sink (StateM σ))
    (kinds : List ArtifactKind) (batch : List Definition) (s : σ) :
    ∃ calls, (l.generateBatch sink.traced kinds batch).run (s, []) =
        (((l.generateBatch sink kinds batch).run s).1,
          (((l.generateBatch sink kinds batch).run s).2, calls)) ∧
      List.Forall₂ (Section.TellsEmissions l sink (Definition.keyOf? batch) kinds calls) batch
        ((l.generateBatch sink kinds batch).run s).1.sections := by
  obtain ⟨calls, hcalls⟩ := l.generateBatch_traced sink kinds batch s []
  have hruns := l.runs_generateBatch sink.traced kinds batch (s, [])
  rw [hcalls] at hruns
  obtain ⟨made, hmade, hturn⟩ :=
    hruns.inTurn (l.foretold_sectionOf sink (Definition.keyOf? batch) kinds)
  refine ⟨_, hcalls, hturn.forall₂.imp ?_⟩
  rintro d r ⟨s, p, part, t, hstep, hpart⟩
  rw [hmade, List.nil_append]
  exact hstep.tellsEmissions hpart

/-- **What is recorded when a sink refuses an artifact.** An artifact that renders is handed over,
alone and at every position of a batch, and the answer is what is recorded; it is a failure exactly
if the sink refuses the directory or the text. If the directory is refused, no text is asked to be
written. What is recorded is a failure of emission that names the artifact or its directory exactly
if the failure of the sink is, or if the text was refused with another failure than one of emission.
-/
theorem refusals_are_recorded (l : Layout) (sink : Sink (StateM σ)) (s : σ) :
    (∀ e flags kind artifact, l.render e flags kind = .ok artifact →
      ∃ calls answer t,
        (l.generate sink e flags kind).run s = (answer.map fun _ => artifact.path, t) ∧
        (l.generate sink.traced e flags kind).run (s, []) =
          (answer.map fun _ => artifact.path, (t, calls)) ∧
        sink.Emission artifact s calls answer t) ∧
    (∀ kinds batch, ∃ calls, (l.generateBatch sink.traced kinds batch).run (s, []) =
        (((l.generateBatch sink kinds batch).run s).1,
          (((l.generateBatch sink kinds batch).run s).2, calls)) ∧
      List.Forall₂ (Section.TellsEmissions l sink (Definition.keyOf? batch) kinds calls) batch
        ((l.generateBatch sink kinds batch).run s).1.sections) ∧
    ∀ (artifact : Rendered) (s : σ),
      (∀ t u own, (sink.holds artifact.place.directory).run s = (false, t) →
        (sink.createDirectories artifact.place.directory).run t = (.error own, u) →
          (sink.traced.emit artifact).run (s, []) =
            (.error own, (u, [.holds artifact.place.directory,
              .createDirectories artifact.place.directory]))) ∧
      ∀ calls recorded t,
        (sink.Emission artifact s calls (.error recorded) t ↔
          ∃ own, sink.Refusal artifact s calls own recorded t) ∧
        ∀ own, sink.Refusal artifact s calls own recorded t →
          (recorded.IsEmissionOf artifact ↔ own.IsEmissionOf artifact ∨
            (artifact.request ∈ calls ∧ ∀ other reason, own ≠ .emissionFailed other reason)) := by
  refine ⟨?_, ?_, ?_⟩
  · intro e flags kind artifact hrender
    exact l.emission_generate sink hrender s
  · intro kinds batch
    exact l.tellsEmissions_generateBatch sink kinds batch s
  · intro artifact s
    constructor
    · intro t u own missing refused
      exact sink.traced_emit_of_refused missing refused
    · intro calls recorded t
      exact ⟨Sink.emission_error_iff, fun own refusal => refusal.isEmissionOf_iff⟩

/-- A disk without room makes directories and takes no text. A fake that it refuses is named. -/
theorem full_disk_recorded :
    let l := Layout.conventional "/sln" "Shop"
    let sink : Sink (StateM Unit) :=
      { createDirectories := fun _ => pure (.ok ())
        write := fun _ _ => pure (.error (.internal "no room"))
        holds := fun _ => pure false }
    let recorded : Failure := .emissionFailed
      "/sln/tests/Shop.SharedTestHelpers/Fakes/Order/FakeOrder.cs"
      "Internal error: no room. This is a bug, please report it."
    ∃ e artifact, (Draft.bare "Order" "Orders").build = .ok e ∧
      l.render e {} .entityFaker = .ok artifact ∧
      ((l.generate sink e {} .entityFaker).run ()).1 = .error recorded ∧
      ∃ calls own, sink.Refusal artifact () calls own recorded () ∧
        recorded.IsEmissionOf artifact ∧ (own.IsEmissionOf artifact ∨ artifact.request ∈ calls) := by
  intro l sink recorded
  obtain ⟨e, build, failed, hpath⟩ : ∃ e, (Draft.bare "Order" "Orders").build = .ok e ∧
      ((l.generate sink e {} .entityFaker).run ()).1 = .error recorded ∧
      (l.render e {} .entityFaker).map (·.path) =
        .ok "/sln/tests/Shop.SharedTestHelpers/Fakes/Order/FakeOrder.cs" :=
    exists_of_map_decide (by decide +kernel)
  obtain ⟨artifact, hrender, hpath⟩ := map_eq_ok_iff.mp hpath
  have hnamed : recorded.IsEmissionOf artifact := ⟨rfl, .inl (by rw [hpath]; rfl)⟩
  obtain ⟨hgenerate, -, hrefused⟩ := refusals_are_recorded l sink ()
  obtain ⟨calls, answer, t, hrun, -, emission⟩ := hgenerate e {} .entityFaker artifact hrender
  cases answer with
  | ok _ =>
    rw [hrun] at failed
    cases failed
  | error failure =>
    have hfailure : failure = recorded := by
      rw [hrun] at failed
      exact Except.error.inj failed
    rw [hfailure] at emission
    obtain ⟨hiff, hnames⟩ := (hrefused artifact ()).2 calls recorded t
    obtain ⟨own, refusal⟩ := hiff.mp emission
    refine ⟨e, artifact, build, hrender, failed, calls, own, refusal, hnamed, ?_⟩
    rcases (hnames own refusal).mp hnamed with h | ⟨h, -⟩
    · exact .inl h
    · exact .inr h

/-- A sink whose lock is lost refuses the directory of a fake. What is recorded is no failure of
emission and names no path, alone and in a batch. -/
theorem lost_lock_recorded_without_path :
    let l := Layout.conventional "/sln" "Shop"
    let sink := Store.refusing
      (.createDirectories "/sln/tests/Shop.SharedTestHelpers/Fakes/Order") .sinkLocked
    let draft := Draft.bare "Order" "Orders"
    (∃ e, draft.build = .ok e ∧ (∃ artifact, l.render e {} .entityFaker = .ok artifact ∧
        ¬Failure.sinkLocked.IsEmissionOf artifact) ∧
      ((l.generate sink e {} .entityFaker).run (∅ : Store)).1 = .error .sinkLocked) ∧
    ((l.generateBatch sink [.entityFaker] [{ draft }]).run (∅ : Store)).1.outcomes =
      [.failed .entityFaker .sinkLocked] ∧
    Failure.sinkLocked.category = .internal ∧ Failure.sinkLocked.path? = none := by
  intro l sink draft
  obtain ⟨e, build, hfailed, hrender⟩ : ∃ e, draft.build = .ok e ∧
      ((l.generate sink e {} .entityFaker).run (∅ : Store)).1 = .error .sinkLocked ∧
      (l.render e {} .entityFaker).map (fun artifact =>
        decide (¬Failure.sinkLocked.IsEmissionOf artifact)) = .ok true :=
    exists_of_map_decide (by decide +kernel)
  exact ⟨⟨e, build, exists_of_map_decide hrender, hfailed⟩, by decide +kernel, rfl, rfl⟩

end Scaffold
