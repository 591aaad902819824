/-
  Scaffold/Proofs/Batch/Handover.lean
  ===================================
  **What a run hands to its sink.**

  A report names paths; what is written there shows in the requests of the run. `Section.HandsOver`
  tells these for one definition of a batch, kind by kind, beside what was planned and what is
  reported: the layout does not provide for the kind, the sink refuses the directory, or the sink is
  handed a text at the planned path. What a text has to tell is up to the definition, its entity and
  the kind, so what holds of everything that a batch renders holds of the requests of every run
  (`Layout.handsOver_generateBatch`).
-/
import Scaffold.Proofs.Batch.DryRun
import Scaffold.Proofs.Render.Delete
import Scaffold.Proofs.Render.Needs

namespace Scaffold

variable {σ : Type}

/-! ### One kind -/

/-- What a run makes of one kind of an entity: the outcome that was planned, the one that is
reported, the requests, and the state after them. -/
inductive Outcome.HandsOver (l : Layout) (sink : Sink (StateM σ)) (e : Entity)
    (tells : ArtifactKind → String → Prop) (s : σ) (kind : ArtifactKind) :
    Outcome → Outcome → List Sink.Call → σ → Prop
  /-- The layout does not provide what the kind needs, and the sink does not come to know of it. -/
  | unprovided {file reason : String} (missing : ¬l.Provides kind) :
      HandsOver l sink e tells s kind
        (.failed kind (.domain (.unresolvableName e.name file reason)))
        (.failed kind (.domain (.unresolvableName e.name file reason))) [] s
  /-- The sink refuses the directory. -/
  | no_directory {place : ClassPath} {t u : σ} {failure : Failure}
      (resolved : l.artifact e kind = .ok place)
      (missing : (sink.holds place.directory).run s = (false, t))
      (refused : (sink.createDirectories place.directory).run t = (.error failure, u)) :
      HandsOver l sink e tells s kind (.planned kind place.fullPath) (.failed kind failure)
        [.holds place.directory, .createDirectories place.directory] u
  /-- The sink is handed the text, and takes or refuses it. -/
  | handed_over {place : ClassPath} {text : String} {calls : List Sink.Call} {t u : σ}
      {answer : Except Failure Unit} (resolved : l.artifact e kind = .ok place)
      (ready : sink.Ready place.directory s calls t)
      (write : (sink.write place.fullPath text).run t = (answer, u)) (telling : tells kind text) :
      HandsOver l sink e tells s kind (.planned kind place.fullPath)
        (.ofEmission kind place.fullPath (answer.mapError (·.onWriting place.fullPath)))
        (calls ++ [.write place.fullPath text]) u

section Kind

variable {l : Layout} {sink : Sink (StateM σ)} {e : Entity} {tells : ArtifactKind → String → Prop}
  {s t : σ} {kind : ArtifactKind} {calls : List Sink.Call}

theorem Sink.Emission.handsOver {artifact : Rendered} {answer : Except Failure Unit}
    (h : sink.Emission artifact s calls answer t)
    (resolved : l.artifact e kind = .ok artifact.place) (telling : tells kind artifact.content) :
    Outcome.HandsOver l sink e tells s kind (.planned kind artifact.path)
      (.ofEmission kind artifact.path answer) calls t := by
  cases h with
  | no_directory missing refused => exact .no_directory resolved missing refused
  | handed_over ready write => exact .handed_over resolved ready write telling

/-- What was foretold with the keys of the parents holds of the entity itself: they have no say in
whether there is a text and where it belongs. -/
theorem Outcome.Foretold.handsOver {keyOf? : String → Option String} {flags : Flags}
    {p r : Outcome} (h : Foretold l sink (e.withParentKeys keyOf?) flags s kind p r calls t)
    (named : (e.withParentKeys keyOf?).IsNamed)
    (telling : ∀ artifact, l.render (e.withParentKeys keyOf?) flags kind = .ok artifact →
      tells kind artifact.content) :
    HandsOver l sink e tells s kind p r calls t := by
  have hresolved : ∀ {artifact : Rendered},
      l.render (e.withParentKeys keyOf?) flags kind = .ok artifact →
        l.artifact e kind = .ok artifact.place := by
    intro artifact render
    obtain ⟨-, hplace, -⟩ := Layout.render_eq_ok_iff.mp render
    rwa [Layout.artifact_withParentKeys] at hplace
  have hneeds := l.needs_render flags named kind
  cases h with
  | refused render =>
    -- a named entity is refused for want of a root only, which fixes the error as well
    have hmissing : ¬l.Provides kind := by
      intro hprovides
      obtain ⟨artifact, hartifact⟩ := hneeds.answers hprovides
      rw [render] at hartifact
      cases hartifact
    obtain ⟨file, reason, hrefused⟩ := hneeds.refuses hmissing
    obtain rfl := Except.error.inj (render.symm.trans hrefused)
    exact .unprovided hmissing
  | stored render emission => exact emission.handsOver (hresolved render) (telling _ render)
  | blocked render emission => exact emission.handsOver (hresolved render) (telling _ render)

/-- What is reported as written was handed over. -/
theorem Outcome.HandsOver.exists_write {p r : Outcome} {path : String}
    (h : HandsOver l sink e tells s kind p r calls t) (written : r.writtenPath? = some path) :
    ∃ text, .write path text ∈ calls ∧ tells kind text := by
  cases h with
  | unprovided missing => cases written
  | no_directory resolved missing refused => cases written
  | @handed_over place text calls _ _ answer resolved ready write telling =>
    have hpath : place.fullPath = path := by
      cases answer with
      | error failure => cases written
      | ok _ => exact Option.some.inj written
    rw [← hpath]
    exact ⟨text, List.mem_append_right _ (List.mem_singleton_self _), telling⟩

end Kind

/-! ### Batches -/

/-- What a run makes of one definition: it is skipped, or every kind is dealt with in turn. -/
inductive Section.HandsOver (l : Layout) (sink : Sink (StateM σ)) (kinds : List ArtifactKind)
    (tells : Definition → Entity → ArtifactKind → String → Prop) (s : σ) (d : Definition) :
    Section → Section → List Sink.Call → σ → Prop
  | skipped {cause : DomainError} (refusal : d.draft.build = .error cause) :
      HandsOver l sink kinds tells s d (.ofRefusal d cause) (.ofRefusal d cause) [] s
  | built {e : Entity} {planned run : List Outcome} {calls : List Sink.Call} {t : σ}
      (build : d.draft.build = .ok e)
      (outcomes : InTurn (Outcome.HandsOver l sink e (tells d e)) s kinds planned run calls t) :
      HandsOver l sink kinds tells s d { entity := e.name, artifacts := planned }
        { entity := e.name, artifacts := run } calls t

/-- A definition that builds has every kind dealt with in turn. -/
theorem Section.HandsOver.outcomes {l : Layout} {sink : Sink (StateM σ)} {kinds : List ArtifactKind}
    {tells : Definition → Entity → ArtifactKind → String → Prop} {s t : σ} {d : Definition}
    {p r : Section} {calls : List Sink.Call} {e : Entity}
    (h : HandsOver l sink kinds tells s d p r calls t) (build : d.draft.build = .ok e) :
    InTurn (Outcome.HandsOver l sink e (tells d e)) s kinds p.artifacts r.artifacts calls t := by
  cases h with
  | skipped refusal =>
    rw [build] at refusal
    cases refusal
  | built build' outcomes =>
    rw [build] at build'
    cases build'
    exact outcomes

/-- What a run reports as written at a position of the batch was handed over there. -/
theorem InTurn.exists_write {l : Layout} {sink : Sink (StateM σ)} {kinds : List ArtifactKind}
    {tells : Definition → Entity → ArtifactKind → String → Prop} {s t : σ}
    {batch : List Definition} {ps rs : List Section} {calls : List Sink.Call}
    (h : InTurn (Section.HandsOver l sink kinds tells) s batch ps rs calls t)
    {i j : Nat} {d : Definition} {e : Entity} {kind : ArtifactKind} {r : Section} {path : String}
    (member : batch[i]? = some d) (build : d.draft.build = .ok e)
    (requested : kinds[j]? = some kind) (reported : rs[i]? = some r)
    (written : r.artifacts[j]? = some (.written kind path)) :
    ∃ text, .write path text ∈ calls ∧ tells d e kind text := by
  obtain ⟨_, p, r', made, _, -, hr, hmade, hsection⟩ := h.exists_step member
  obtain rfl : r' = r := Option.some.inj (hr.symm.trans reported)
  obtain ⟨_, _, o, part, _, -, ho, hpart, houtcome⟩ :=
    (hsection.outcomes build).exists_step requested
  obtain rfl : o = .written kind path := Option.some.inj (ho.symm.trans written)
  obtain ⟨text, hmem, htells⟩ := houtcome.exists_write rfl
  exact ⟨text, hmade.subset (hpart.subset hmem), htells⟩

/-- **What all texts of a batch tell, the texts tell that a run hands to its sink**, at the position
of the definition and the kind that they are rendered from. -/
theorem Layout.handsOver_generateBatch (l : Layout) (sink : Sink (StateM σ))
    (kinds : List ArtifactKind) (batch : List Definition) (s : σ)
    {tells : Definition → Entity → ArtifactKind → String → Prop}
    (telling : ∀ d ∈ batch, ∀ e, d.draft.build = .ok e → ∀ kind artifact,
      l.render (e.withParentKeys (Definition.keyOf? batch)) d.flags kind = .ok artifact →
        tells d e kind artifact.content) :
    let run := (l.generateBatch sink kinds batch).run s
    ∃ calls, (l.generateBatch sink.traced kinds batch).run (s, []) = (run.1, (run.2, calls)) ∧
      InTurn (Section.HandsOver l sink kinds tells) s batch (l.planBatch kinds batch).sections
        run.1.sections calls run.2 := by
  intro run
  obtain ⟨calls, hcalls, hturn⟩ := l.foretold_generateBatch sink kinds batch s
  refine ⟨calls, hcalls, hturn.imp ?_⟩
  intro d hd s p r calls t hsection
  cases hsection with
  | skipped refusal => exact .skipped refusal
  | @built e planned run calls t build outcomes =>
    refine .built build (outcomes.imp ?_)
    intro kind _ s p r calls t houtcome
    have hnamed := (Definition.built_of_build build batch).isNamed
    exact houtcome.handsOver hnamed (telling d hd e build kind)

end Scaffold
