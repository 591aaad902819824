/-
  Scaffold/Proofs/Batch/Trace.lean
  ================================
  **The requests that a batch makes of its sink.**

  `Sink.traced` is a sink that also keeps every request in order, beside the state of the sink under
  it. Keeping them changes nothing: against a traced sink a batch has the same report and leaves the
  sink in the same state (`generateBatch_traced`), so a fact about the requests of a traced run is a
  fact about the requests of the run.
-/
import Scaffold.Proofs.Batch.Run

namespace Scaffold

variable {σ : Type}

/-! ### Sinks that keep their requests -/

namespace Sink

/-- Answers a request as before and writes it down. -/
def recording {α : Type} (call : Call) (request : StateM σ α) : StateM (σ × List Call) α :=
  fun t => (((request.run t.1).1, ((request.run t.1).2, t.2 ++ [call])) : α × σ × List Call)

/-- A sink that also keeps every request made of it, in order. -/
def traced (sink : Sink (StateM σ)) : Sink (StateM (σ × List Call)) where
  createDirectories path := recording (.createDirectories path) (sink.createDirectories path)
  write path content := recording (.write path content) (sink.write path content)
  holds path := recording (.holds path) (sink.holds path)

end Sink

/-! ### A traced run is the run with its requests -/

/-- `traced` does what `plain` does, and only adds requests to those that were kept before. -/
def Records {α : Type} (traced : StateM (σ × List Sink.Call) α) (plain : StateM σ α) : Prop :=
  ∀ s calls, ∃ made, traced.run (s, calls) =
    (((plain.run s).1, ((plain.run s).2, calls ++ made)) : α × σ × List Sink.Call)

namespace Records

variable {α β : Type}

theorem recording (call : Sink.Call) (request : StateM σ α) :
    Records (Sink.recording call request) request := fun _ _ => ⟨[call], rfl⟩

theorem pure (a : α) : Records (Pure.pure a) (Pure.pure a : StateM σ α) := by
  intro s calls
  refine ⟨[], ?_⟩
  rw [List.append_nil]
  rfl

theorem bind {traced : StateM (σ × List Sink.Call) α} {plain : StateM σ α}
    {traced' : α → StateM (σ × List Sink.Call) β} {plain' : α → StateM σ β}
    (h : Records traced plain) (h' : ∀ a, Records (traced' a) (plain' a)) :
    Records (traced >>= traced') (plain >>= plain') := by
  intro s calls
  obtain ⟨made, hmade⟩ := h s calls
  obtain ⟨more, hmore⟩ := h' (plain.run s).1 (plain.run s).2 (calls ++ made)
  refine ⟨made ++ more, ?_⟩
  rw [StateT.run_bind, hmade, ← List.append_assoc]
  exact hmore

theorem mapM {traced : α → StateM (σ × List Sink.Call) β} {plain : α → StateM σ β}
    (h : ∀ a, Records (traced a) (plain a)) (as : List α) :
    Records (as.mapM traced) (as.mapM plain) := by
  induction as with
  | nil => exact pure []
  | cons a as ih =>
    rw [List.mapM_cons, List.mapM_cons]
    exact bind (h a) fun b => bind ih fun bs => pure (b :: bs)

end Records

namespace Layout

variable (l : Layout) (sink : Sink (StateM σ))

theorem records_emit (artifact : Rendered) :
    Records (sink.traced.emit artifact) (sink.emit artifact) := by
  rw [Sink.emit_eq, Sink.emit_eq]
  refine Records.bind (Records.bind (Records.recording _ _) fun held => ?_) fun ready => ?_
  · cases held with
    | false => exact Records.recording _ _
    | true => exact Records.pure _
  · cases ready with
    | error failure => exact Records.pure _
    | ok _ => exact Records.bind (Records.recording _ _) fun result => Records.pure _

theorem records_generateOutcome (e : Entity) (flags : Flags) (kind : ArtifactKind) :
    Records (l.generateOutcome sink.traced e flags kind) (l.generateOutcome sink e flags kind) := by
  cases hrender : l.render e flags kind with
  | error cause =>
    rw [generateOutcome_of_error sink.traced hrender, generateOutcome_of_error sink hrender]
    exact Records.pure _
  | ok artifact =>
    rw [generateOutcome_of_ok sink.traced hrender, generateOutcome_of_ok sink hrender,
      ← bind_pure_comp, ← bind_pure_comp]
    exact Records.bind (records_emit sink artifact) fun result => Records.pure _

/-- **Keeping the requests changes nothing**: a traced batch has the report of the batch, leaves the
sink in the state that the batch leaves it in, and adds its requests to those kept before. -/
theorem generateBatch_traced (kinds : List ArtifactKind) (batch : List Definition) :
    Records (l.generateBatch sink.traced kinds batch) (l.generateBatch sink kinds batch) := by
  refine Records.bind (Records.mapM (fun d => ?_) batch) fun sections => Records.pure _
  unfold sectionOf
  cases d.draft.build with
  | error cause => exact Records.pure _
  | ok e =>
    exact Records.bind (Records.mapM (records_generateOutcome l sink _ _) kinds)
      fun artifacts => Records.pure _

end Layout

end Scaffold
