/-
  Scaffold/Proofs/Batch/DryRun.lean
  =================================
  **A plan foretells the run.**

  Planning and generating are one run with a switch: with the switch on, no request reaches the sink
  (`Layout.runBatch_dry`), with it off the sink gets every artifact that renders
  (`Layout.runBatch_real`). What a plan says about an artifact then leaves the run three ways to go
  (`Outcome.Foretold`):

    * planned as failed: it fails in the same way, and nothing is asked of the sink;
    * planned at a path: it is written there, or the sink refuses the directory or the text.

  These are told apart at every position of a batch, with the requests made there and the states of
  the sink before and after, so that a failure at one position cannot show at another.
-/
import Scaffold.Proofs.Batch.Trace

namespace Scaffold

/-! ### One run with a switch -/

section Switch

variable {m : Type → Type} [Monad m] (l : Layout) (sink : Sink m) (dry : Bool)

/-- Renders an artifact and, unless the run is dry, writes it. -/
def Layout.runOutcome (e : Entity) (flags : Flags) (kind : ArtifactKind) : m Outcome := do
  let result ← match l.render e flags kind with
    | .error cause => pure (.error (.domain cause))
    | .ok artifact => do
      let answer ← if dry then pure (.ok ()) else sink.emit artifact
      pure (answer.map fun _ => artifact.path)
  match result with
  | .ok path => pure (if dry then .planned kind path else .written kind path)
  | .error failure => pure (.failed kind failure)

/-- Deals with every requested kind of every definition. -/
def Layout.runBatch (kinds : List ArtifactKind) (batch : List Definition) : m Report := do
  let sections ← batch.mapM (sectionOf (Definition.keyOf? batch) (l.runOutcome sink dry) kinds)
  pure { isDryRun := dry, sections }

variable [LawfulMonad m]

theorem Layout.runOutcome_dry (e : Entity) (flags : Flags) (kind : ArtifactKind) :
    l.runOutcome sink true e flags kind = pure (l.planOutcome e flags kind) := by
  unfold runOutcome planOutcome
  cases l.render e flags kind with
  | error cause => simp
  | ok artifact => simp [Except.map]

theorem Layout.runOutcome_real (e : Entity) (flags : Flags) (kind : ArtifactKind) :
    l.runOutcome sink false e flags kind = l.generateOutcome sink e flags kind := by
  unfold runOutcome
  cases hrender : l.render e flags kind with
  | error cause =>
    rw [generateOutcome_of_error sink hrender]
    simp
  | ok artifact =>
    rw [generateOutcome_of_ok sink hrender, map_eq_pure_bind]
    simp only [Bool.false_eq_true, if_false, pure_bind]
    refine bind_congr fun answer => ?_
    cases answer <;> rfl

/-- **A dry run asks nothing of the sink**: it is the plan, in whatever monad the sink works. -/
theorem Layout.runBatch_dry (kinds : List ArtifactKind) (batch : List Definition) :
    l.runBatch sink true kinds batch = pure (l.planBatch kinds batch) := by
  have hsection : sectionOf (Definition.keyOf? batch) (l.runOutcome sink true) kinds =
      fun d => pure (l.planSection (Definition.keyOf? batch) kinds d) := by
    funext d
    unfold planSection
    cases build : d.draft.build with
    | error cause => rw [sectionOf_of_error build]
    | ok e =>
      rw [sectionOf_of_ok build]
      have hkinds : l.runOutcome sink true (e.withParentKeys (Definition.keyOf? batch)) d.flags =
          fun kind => pure
            (l.planOutcome (e.withParentKeys (Definition.keyOf? batch)) d.flags kind) :=
        funext fun kind => l.runOutcome_dry sink _ _ kind
      rw [hkinds, List.mapM_pure, pure_bind]
  have hplan : l.planBatch kinds batch =
      { isDryRun := true
        sections := batch.map (l.planSection (Definition.keyOf? batch) kinds) } := by
    rw [← sections_planBatch]
    rfl
  rw [runBatch, hsection, List.mapM_pure, pure_bind, hplan]

theorem Layout.runBatch_real (kinds : List ArtifactKind) (batch : List Definition) :
    l.runBatch sink false kinds batch = l.generateBatch sink kinds batch := by
  have houtcome : l.runOutcome sink false = l.generateOutcome sink := by
    funext e flags kind
    exact l.runOutcome_real sink e flags kind
  rw [runBatch, generateBatch, houtcome]

end Switch

variable {σ : Type}

/-! ### Emitting one artifact -/

namespace Sink

variable (sink : Sink (StateM σ))

/-- From `s` to `t` the sink comes to have a directory, with the requests made for it. -/
inductive Ready (directory : String) (s : σ) : List Call → σ → Prop
  | held {t : σ} (held : (sink.holds directory).run s = (true, t)) :
      Ready directory s [.holds directory] t
  | made {t u : σ} (missing : (sink.holds directory).run s = (false, t))
      (made : (sink.createDirectories directory).run t = (.ok (), u)) :
      Ready directory s [.holds directory, .createDirectories directory] u

/-- What handing an artifact over to a sink can be: the requests made, the answer, and the state
after it. An answer that is a failure is a refusal of the sink. -/
inductive Emission (artifact : Rendered) (s : σ) : List Call → Except Failure Unit → σ → Prop
  | no_directory {t u : σ} {failure : Failure}
      (missing : (sink.holds artifact.place.directory).run s = (false, t))
      (refused : (sink.createDirectories artifact.place.directory).run t = (.error failure, u)) :
      Emission artifact s
        [.holds artifact.place.directory, .createDirectories artifact.place.directory]
        (.error failure) u
  | handed_over {calls : List Call} {t u : σ} {answer : Except Failure Unit}
      (ready : sink.Ready artifact.place.directory s calls t)
      (write : (sink.write artifact.path artifact.content).run t = (answer, u)) :
      Emission artifact s (calls ++ [.write artifact.path artifact.content])
        (answer.mapError (·.onWriting artifact.path)) u

theorem run_traced_createDirectories (directory : String) (s : σ) (calls : List Call) :
    (sink.traced.createDirectories directory).run (s, calls) =
      (((sink.createDirectories directory).run s).1, (((sink.createDirectories directory).run s).2,
        calls ++ [.createDirectories directory])) :=
  rfl

/-- A traced sink either has the directory or refuses it, and keeps its requests. -/
theorem prepare_traced (artifact : Rendered) (s : σ) (calls : List Call) :
    (∃ made t, (sink.traced.prepare artifact.place.directory).run (s, calls) =
        (.ok (), (t, calls ++ made)) ∧
      sink.Ready artifact.place.directory s made t) ∨
    (∃ made failure t, (sink.traced.prepare artifact.place.directory).run (s, calls) =
        (.error failure, (t, calls ++ made)) ∧
      sink.Emission artifact s made (.error failure) t) := by
  have hprepare : (sink.traced.prepare artifact.place.directory).run (s, calls) =
      (if ((sink.holds artifact.place.directory).run s).1 then pure (.ok ())
        else sink.traced.createDirectories artifact.place.directory).run
        (((sink.holds artifact.place.directory).run s).2,
          calls ++ [.holds artifact.place.directory]) := rfl
  rw [hprepare]
  rcases hholds : (sink.holds artifact.place.directory).run s with ⟨held, t⟩
  cases held with
  | true => exact .inl ⟨_, t, rfl, .held hholds⟩
  | false =>
    rcases hcreate : (sink.createDirectories artifact.place.directory).run t with ⟨answer, u⟩
    have hrun : (sink.traced.createDirectories artifact.place.directory).run
        (t, calls ++ [.holds artifact.place.directory]) =
        (answer, (u, calls ++ [.holds artifact.place.directory,
          .createDirectories artifact.place.directory])) := by
      rw [run_traced_createDirectories, hcreate, List.append_assoc]
      rfl
    cases answer with
    | ok _ => exact .inl ⟨_, u, hrun, .made hholds hcreate⟩
    | error failure => exact .inr ⟨_, failure, u, hrun, .no_directory hholds hcreate⟩

theorem emission_traced (artifact : Rendered) (s : σ) (calls : List Call) :
    ∃ made answer t, (sink.traced.emit artifact).run (s, calls) = (answer, (t, calls ++ made)) ∧
      sink.Emission artifact s made answer t := by
  rw [emit_eq, StateT.run_bind]
  rcases sink.prepare_traced artifact s calls with
    ⟨made, t, hprepare, ready⟩ | ⟨made, failure, t, hprepare, emission⟩
  · rw [hprepare]
    refine ⟨made ++ [.write artifact.path artifact.content], _, _, ?_, .handed_over ready rfl⟩
    rw [← List.append_assoc]
    rfl
  · rw [hprepare]
    exact ⟨made, _, t, rfl, emission⟩

end Sink

/-! ### What a plan leaves open -/

/-- What a plan and a run say about one kind of an entity, with the requests that the run made for
it and the states of the sink before and after. -/
inductive Outcome.Foretold (l : Layout) (sink : Sink (StateM σ)) (e : Entity) (flags : Flags)
    (s : σ) (kind : ArtifactKind) : Outcome → Outcome → List Sink.Call → σ → Prop
  /-- What cannot be rendered fails in both, and the sink does not come to know of it. -/
  | refused {cause : DomainError} (render : l.render e flags kind = .error cause) :
      Foretold l sink e flags s kind (.failed kind (.domain cause)) (.failed kind (.domain cause))
        [] s
  /-- What is planned at a path is written there. -/
  | stored {artifact : Rendered} {calls : List Sink.Call} {t : σ}
      (render : l.render e flags kind = .ok artifact)
      (emission : sink.Emission artifact s calls (.ok ()) t) :
      Foretold l sink e flags s kind (.planned kind artifact.path) (.written kind artifact.path)
        calls t
  /-- Else the sink refuses it. -/
  | blocked {artifact : Rendered} {failure : Failure} {calls : List Sink.Call} {t : σ}
      (render : l.render e flags kind = .ok artifact)
      (emission : sink.Emission artifact s calls (.error failure) t) :
      Foretold l sink e flags s kind (.planned kind artifact.path) (.failed kind failure) calls t

/-- The members of a list are dealt with in turn: each has its part of the requests and starts in
the state that the one before it left. -/
inductive InTurn {α β : Type} (step : σ → α → β → β → List Sink.Call → σ → Prop) :
    σ → List α → List β → List β → List Sink.Call → σ → Prop
  | nil (s : σ) : InTurn step s [] [] [] [] s
  | cons {s t u : σ} {a : α} {p r : β} {as : List α} {ps rs : List β}
      {calls calls' : List Sink.Call}
      (first : step s a p r calls t) (rest : InTurn step t as ps rs calls' u) :
      InTurn step s (a :: as) (p :: ps) (r :: rs) (calls ++ calls') u

/-- What a plan and a run say about one definition. -/
inductive Section.Foretold (l : Layout) (sink : Sink (StateM σ)) (keyOf? : String → Option String)
    (kinds : List ArtifactKind) (s : σ) (d : Definition) :
    Section → Section → List Sink.Call → σ → Prop
  /-- A draft that cannot be built is skipped in both, for the same reason. -/
  | skipped {cause : DomainError} (refusal : d.draft.build = .error cause) :
      Foretold l sink keyOf? kinds s d (Section.ofRefusal d cause) (Section.ofRefusal d cause) [] s
  | built {e : Entity} {planned run : List Outcome} {calls : List Sink.Call} {t : σ}
      (build : d.draft.build = .ok e)
      (outcomes : InTurn (Outcome.Foretold l sink (e.withParentKeys keyOf?) d.flags) s kinds
        planned run calls t) :
      Foretold l sink keyOf? kinds s d { entity := e.name, artifacts := planned }
        { entity := e.name, artifacts := run } calls t

/-- A run that keeps its requests goes in turn, beside what was planned for every member. -/
theorem Runs.inTurn {α β : Type} {f : α → StateM (σ × List Sink.Call) β} {plan : α → β}
    {step : σ → α → β → β → List Sink.Call → σ → Prop}
    (hstep : ∀ a s calls, ∃ made b t, (f a).run (s, calls) = (b, (t, calls ++ made)) ∧
      step s a (plan a) b made t)
    {s s' : σ} {calls calls' : List Sink.Call} {as : List α} {bs : List β}
    (h : Runs f (s, calls) as bs (s', calls')) :
    ∃ made, calls' = calls ++ made ∧ InTurn step s as (as.map plan) bs made s' := by
  induction as generalizing s calls bs with
  | nil =>
    cases h
    exact ⟨[], (List.append_nil _).symm, .nil _⟩
  | cons a as ih =>
    cases h with
    | cons run rest =>
      obtain ⟨made, b, t, hrun, hfirst⟩ := hstep a s calls
      rw [hrun] at run
      cases run
      obtain ⟨made', hcalls, hrest⟩ := ih rest
      refine ⟨made ++ made', ?_, .cons hfirst hrest⟩
      rw [hcalls, List.append_assoc]

namespace Layout

variable (l : Layout) (sink : Sink (StateM σ))

theorem foretold_generateOutcome (e : Entity) (flags : Flags) (kind : ArtifactKind) (s : σ)
    (calls : List Sink.Call) :
    ∃ made o t, (l.generateOutcome sink.traced e flags kind).run (s, calls) =
        (o, (t, calls ++ made)) ∧
      Outcome.Foretold l sink e flags s kind (l.planOutcome e flags kind) o made t := by
  unfold planOutcome
  cases hrender : l.render e flags kind with
  | error cause =>
    rw [generateOutcome_of_error sink.traced hrender]
    refine ⟨[], _, s, ?_, .refused hrender⟩
    rw [List.append_nil]
    rfl
  | ok artifact =>
    rw [generateOutcome_of_ok sink.traced hrender, StateT.run_map]
    obtain ⟨made, answer, t, hemit, emission⟩ := sink.emission_traced artifact s calls
    rw [hemit]
    cases answer with
    | ok _ => exact ⟨made, _, t, rfl, .stored hrender emission⟩
    | error failure => exact ⟨made, _, t, rfl, .blocked hrender emission⟩

theorem foretold_sectionOf (keyOf? : String → Option String) (kinds : List ArtifactKind)
    (d : Definition) (s : σ) (calls : List Sink.Call) :
    ∃ made r t, (sectionOf keyOf? (l.generateOutcome sink.traced) kinds d).run (s, calls) =
        (r, (t, calls ++ made)) ∧
      Section.Foretold l sink keyOf? kinds s d (l.planSection keyOf? kinds d) r made t := by
  unfold planSection
  cases build : d.draft.build with
  | error cause =>
    rw [sectionOf_of_error build]
    refine ⟨[], _, s, ?_, .skipped build⟩
    rw [List.append_nil]
    rfl
  | ok e =>
    rw [sectionOf_of_ok build, StateT.run_bind]
    have hruns := Runs.of_mapM (l.generateOutcome sink.traced (e.withParentKeys keyOf?) d.flags)
      (s, calls) kinds
    rcases hkinds : (kinds.mapM
      (l.generateOutcome sink.traced (e.withParentKeys keyOf?) d.flags)).run (s, calls) with
      ⟨outcomes, t, calls'⟩
    rw [hkinds] at hruns
    obtain ⟨made, rfl, hturn⟩ := hruns.inTurn (l.foretold_generateOutcome sink _ _)
    exact ⟨made, _, t, rfl, .built build hturn⟩

end Layout

namespace InTurn

variable {α β γ : Type} {step step' : σ → α → β → β → List Sink.Call → σ → Prop} {s t : σ}
  {as : List α} {ps rs : List β} {calls : List Sink.Call}

/-- What follows from each step for a member follows in turn. -/
theorem imp (hstep : ∀ a ∈ as, ∀ {s p r calls t}, step s a p r calls t → step' s a p r calls t)
    (h : InTurn step s as ps rs calls t) : InTurn step' s as ps rs calls t := by
  induction h with
  | nil s => exact .nil s
  | cons first _ ih =>
    refine .cons (hstep _ List.mem_cons_self first) (ih ?_)
    intro a ha
    exact hstep a (List.mem_cons_of_mem _ ha)

/-- Every member has a part of the requests. -/
theorem exists_step (h : InTurn step s as ps rs calls t) {i : Nat} {a : α} (ha : as[i]? = some a) :
    ∃ s' p r made t', ps[i]? = some p ∧ rs[i]? = some r ∧ made <:+: calls ∧
      step s' a p r made t' := by
  induction h generalizing i with
  | nil s => cases ha
  | @cons s t u a' p r as ps rs made made' first rest ih =>
    cases i with
    | zero =>
      cases ha
      exact ⟨s, p, r, made, t, rfl, rfl, (List.prefix_append made made').isInfix, first⟩
    | succ i =>
      obtain ⟨s', p', r', part, t', hp, hr, hpart, hstep⟩ := ih ha
      exact ⟨s', p', r', part, t', hp, hr, hpart.trans (List.suffix_append made made').isInfix, hstep⟩

theorem map_eq {f : β → γ} (hstep : ∀ {s a p r calls t}, step s a p r calls t → f p = f r)
    (h : InTurn step s as ps rs calls t) : ps.map f = rs.map f := by
  induction h with
  | nil => rfl
  | cons first _ ih => rw [List.map_cons, List.map_cons, hstep first, ih]

end InTurn

/-- A batch goes in turn, each definition beside its plan. -/
theorem Layout.foretold_generateBatch (l : Layout) (sink : Sink (StateM σ))
    (kinds : List ArtifactKind) (batch : List Definition) (s : σ) :
    let run := (l.generateBatch sink kinds batch).run s
    ∃ calls, (l.generateBatch sink.traced kinds batch).run (s, []) = (run.1, (run.2, calls)) ∧
      InTurn (Section.Foretold l sink (Definition.keyOf? batch) kinds) s batch
        (l.planBatch kinds batch).sections run.1.sections calls run.2 := by
  intro run
  obtain ⟨calls, hcalls⟩ := l.generateBatch_traced sink kinds batch s []
  have hruns := l.runs_generateBatch sink.traced kinds batch (s, [])
  rw [hcalls] at hruns
  obtain ⟨made, hmade, hturn⟩ :=
    hruns.inTurn (l.foretold_sectionOf sink (Definition.keyOf? batch) kinds)
  rw [← sections_planBatch, ← List.nil_append made, ← hmade] at hturn
  exact ⟨_, hcalls, hturn⟩

/-- **A plan foretells the run.** A dry run is the plan, whatever the sink and without a request to
it, and a run that is not dry generates the batch. Both report the same entities, skipped for the
same reasons. At every position what the plan says fails does fail so, without a request; what it
puts at a path is written there or refused by the sink; and the run knows no other outcome. -/
theorem plan_foretells_run (l : Layout) (sink : Sink (StateM σ)) (kinds : List ArtifactKind)
    (batch : List Definition) (s : σ) :
    let plan := l.planBatch kinds batch
    let run := (l.generateBatch sink kinds batch).run s
    (∀ (m : Type → Type) [Monad m] [LawfulMonad m] (any : Sink m),
      l.runBatch any true kinds batch = pure plan ∧
      l.runBatch any false kinds batch = l.generateBatch any kinds batch) ∧
    plan.sections.map (fun p => (p.entity, p.skipped)) =
      run.1.sections.map (fun r => (r.entity, r.skipped)) ∧
    ∃ calls, (l.generateBatch sink.traced kinds batch).run (s, []) = (run.1, (run.2, calls)) ∧
      InTurn (Section.Foretold l sink (Definition.keyOf? batch) kinds) s batch plan.sections
        run.1.sections calls run.2 := by
  intro plan run
  obtain ⟨calls, hcalls, hturn⟩ := l.foretold_generateBatch sink kinds batch s
  refine ⟨?_, hturn.map_eq ?_, calls, hcalls, hturn⟩
  · intro m _ _ any
    exact ⟨l.runBatch_dry any kinds batch, l.runBatch_real any kinds batch⟩
  · intro s d p r calls t hsection
    cases hsection with
    | skipped _ => rfl
    | built _ _ => rfl

end Scaffold
