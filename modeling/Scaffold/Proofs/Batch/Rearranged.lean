/-
  Scaffold/Proofs/Batch/Rearranged.lean
  =====================================
  **The order of a batch does not matter.**

  Definitions of a batch have two things in common: the keys that their foreign keys read, and the
  store that they are written to. Where the names of the entities are distinct, the keys do not
  depend on the order (`Definition.keyOf?_of_perm`) and no two artifacts belong at one path
  (`Layout.separate_renderedBatch`). So a definition has the same section wherever it stands, with
  the same outcome for a kind wherever and however often that is asked for, and the files in the
  store come out the same.
-/
import Scaffold.Proofs.Batch.Memory
import Scaffold.Proofs.Batch.ParentKeys
import Scaffold.Proofs.Layout.Collisions

namespace Scaffold

/-! ### Keys in another order -/

/-- Where every name has one key, looking a name up finds the entry of that name. -/
theorem lookup_eq_some_iff_mem {keys : List (String × String)} (h : (keys.map Prod.fst).Nodup)
    {name key : String} : keys.lookup name = some key ↔ (name, key) ∈ keys := by
  rw [List.lookup_eq_some_iff]
  constructor
  · rintro ⟨before, after, rfl, -⟩
    exact List.mem_append_right before List.mem_cons_self
  · intro hmem
    obtain ⟨before, after, rfl⟩ := List.append_of_mem hmem
    refine ⟨before, after, rfl, ?_⟩
    intro entry hentry
    rw [List.map_append, List.map_cons] at h
    -- the entry that is found is the only one of its name, so none in front of it is
    have hne : entry.1 ≠ name :=
      List.nodup_append.mp h |>.2.2 _ (List.mem_map_of_mem hentry) _ List.mem_cons_self
    exact bne_iff_ne.mpr hne.symm

namespace Definition

/-- No two definitions that build have one name. -/
def DistinctNames (batch : List Definition) : Prop :=
  ((batch.filter builds).map fun d => Name.pascal d.draft.name).Nodup

instance (batch : List Definition) : Decidable (DistinctNames batch) := by
  unfold DistinctNames
  infer_instance

variable {batch batch' : List Definition}

theorem map_fst_keys (batch : List Definition) :
    (keys batch).map Prod.fst = (batch.filter builds).map fun d => Name.pascal d.draft.name := by
  induction batch with
  | nil => rfl
  | cons d batch ih =>
    unfold keys at ih ⊢
    cases build : d.draft.build with
    | error cause =>
      have hnot : ¬ d.builds = true := by simp [builds, build, Except.toOption]
      rw [List.filter_cons_of_neg hnot, ← ih]
      simp [build, Except.toOption]
    | ok e =>
      have hbuilds : d.builds = true := builds_iff.mpr ⟨e, build⟩
      rw [List.filter_cons_of_pos hbuilds, List.map_cons, ← ih,
        ← (Draft.describes_of_build build).name]
      simp [build, Except.toOption]

theorem DistinctNames.perm (h : DistinctNames batch) (hperm : batch.Perm batch') :
    DistinctNames batch' :=
  (((hperm.filter builds).map _).nodup_iff).mp h

/-- **Entities of distinct names have their keys in any order.** -/
theorem keyOf?_of_perm (h : DistinctNames batch) (hperm : batch.Perm batch') :
    keyOf? batch' = keyOf? batch := by
  have hnodup : ∀ ds : List Definition, DistinctNames ds →
      ((keys ds).reverse.map Prod.fst).Nodup := by
    intro ds hds
    rw [List.map_reverse, List.nodup_reverse, map_fst_keys]
    exact hds
  have hkeys : (keys batch').Perm (keys batch) := (hperm.filterMap _).symm
  funext name
  apply Option.ext
  intro key
  unfold keyOf?
  rw [lookup_eq_some_iff_mem (hnodup batch' (h.perm hperm)),
    lookup_eq_some_iff_mem (hnodup batch h), List.mem_reverse, List.mem_reverse, hkeys.mem_iff]

/-- Where names are distinct, a definition is known by the name of its entity. -/
theorem DistinctNames.eq_of_name_eq (h : DistinctNames batch) {d d' : Definition} {e e' : Entity}
    (hd : d ∈ batch) (hd' : d' ∈ batch) (build : d.draft.build = .ok e)
    (build' : d'.draft.build = .ok e') (hname : e.name = e'.name) : d = d' := by
  have hmem : d ∈ batch.filter builds := List.mem_filter.mpr ⟨hd, builds_iff.mpr ⟨e, build⟩⟩
  have hmem' : d' ∈ batch.filter builds := List.mem_filter.mpr ⟨hd', builds_iff.mpr ⟨e', build'⟩⟩
  rw [(Draft.describes_of_build build).name, (Draft.describes_of_build build').name] at hname
  exact List.inj_on_of_nodup_map h hmem hmem' hname

end Definition

/-! ### Artifacts in another order -/

namespace Layout

variable {l : Layout} {kinds kinds' : List ArtifactKind} {batch batch' : List Definition}

/-- Where names are distinct, every path belongs to one artifact. -/
theorem separate_renderedBatch (h : Definition.DistinctNames batch) :
    Store.Separate (l.renderedBatch kinds batch) := by
  intro a ha b hb hsame
  obtain ⟨d, hd, e, build, kind, -, hrender⟩ := mem_renderedBatch_iff.mp ha
  obtain ⟨d', hd', e', build', kind', -, hrender'⟩ := mem_renderedBatch_iff.mp hb
  obtain ⟨-, hplace, -⟩ := render_eq_ok_iff.mp hrender
  obtain ⟨-, hplace', -⟩ := render_eq_ok_iff.mp hrender'
  rw [artifact_withParentKeys] at hplace hplace'
  obtain ⟨hname, rfl⟩ := name_and_kind_of_components_eq (Draft.isNamed_of_build build)
    (Draft.isNamed_of_build build') hplace hplace' (Path.same_iff.mp hsame)
  obtain rfl := h.eq_of_name_eq hd hd' build build' hname
  obtain rfl := Except.ok.inj (build.symm.trans build')
  exact Except.ok.inj (hrender.symm.trans hrender')

theorem mem_renderedBatch_of_perm (h : Definition.DistinctNames batch) (hbatch : batch.Perm batch')
    (hkinds : ∀ kind, kind ∈ kinds ↔ kind ∈ kinds') (artifact : Rendered) :
    artifact ∈ l.renderedBatch kinds batch ↔ artifact ∈ l.renderedBatch kinds' batch' := by
  rw [mem_renderedBatch_iff, mem_renderedBatch_iff, Definition.keyOf?_of_perm h hbatch]
  simp only [hbatch.mem_iff, hkinds]

/-- From an empty store, the files are those of the artifacts that can be rendered. -/
theorem files_generateBatch (l : Layout) (kinds : List ArtifactKind) (batch : List Definition) :
    ((l.generateBatch Store.sink kinds batch).run ∅).2.files =
      Store.filesAfter [] (l.renderedBatch kinds batch) := by
  obtain ⟨hreport, -⟩ := l.generateBatch_of_room (Store.hasRoom_empty (l.renderedBatch kinds batch))
  obtain ⟨htakes, -⟩ := l.takes_generateBatch kinds batch ∅
  rw [hreport, written_carriedOut] at htakes
  exact htakes.files

end Layout

/-! ### Reports in another order -/

/-- A report on a batch in which each definition has its heading, and each kind of a definition that
builds its outcome, wherever they stand. -/
def Report.Lists (r : Report) (kinds : List ArtifactKind) (batch : List Definition)
    (heading : Definition → Section) (outcome : Definition → ArtifactKind → Outcome) : Prop :=
  r.sections = batch.map fun d =>
    { heading d with artifacts := if d.builds then kinds.map (outcome d) else [] }

theorem Report.Lists.carriedOut {r : Report} {kinds : List ArtifactKind} {batch : List Definition}
    {heading : Definition → Section} {outcome : Definition → ArtifactKind → Outcome}
    (h : r.Lists kinds batch heading outcome) :
    r.carriedOut.Lists kinds batch heading fun d kind => (outcome d kind).carriedOut := by
  unfold Report.Lists at h ⊢
  rw [Report.carriedOut, h, List.map_map]
  apply List.map_congr_left
  intro d _
  cases hbuilds : d.builds <;> simp [Section.carriedOut, hbuilds]

/-- The outcome that is planned for a kind of a definition, by the keys of a batch. -/
def Layout.plannedFor (l : Layout) (keyOf? : String → Option String) (d : Definition)
    (kind : ArtifactKind) : Outcome :=
  match d.draft.build with
  | .error cause => .failed kind (.domain cause)
  | .ok e => l.planOutcome (e.withParentKeys keyOf?) d.flags kind

theorem Layout.planSection_eq (l : Layout) (keyOf? : String → Option String)
    (kinds : List ArtifactKind) (d : Definition) :
    l.planSection keyOf? kinds d =
      { l.planSection keyOf? [] d with
        artifacts := if d.builds then kinds.map (l.plannedFor keyOf? d) else [] } := by
  have hplanned : ∀ e, d.draft.build = .ok e →
      l.plannedFor keyOf? d = l.planOutcome (e.withParentKeys keyOf?) d.flags := by
    intro e build
    funext kind
    simp only [plannedFor, build]
  unfold planSection Definition.builds
  cases build : d.draft.build with
  | error cause => rfl
  | ok e =>
    rw [hplanned e build]
    rfl

/-- **The order of a batch does not matter.** Where no two definitions that build have one name,
there is one heading for each definition and one outcome for each of its kinds, which every plan for
the definitions in any order and for any kinds lists, and which every run into a store with room for
it lists as carried out. Into an empty store, runs for the same kinds, in any order and number,
write the same files. -/
theorem batch_order_irrelevant (l : Layout) {batch : List Definition}
    (distinct : Definition.DistinctNames batch) :
    (∃ (heading : Definition → Section) (outcome : Definition → ArtifactKind → Outcome),
      ∀ kinds batch', batch.Perm batch' →
        (l.planBatch kinds batch').Lists kinds batch' heading outcome ∧
        ∀ s : Store, s.HasRoom (l.renderedBatch kinds batch') →
          ((l.generateBatch Store.sink kinds batch').run s).1.Lists kinds batch' heading
            (fun d kind => (outcome d kind).carriedOut)) ∧
    ∀ kinds kinds' batch', batch.Perm batch' → (∀ kind, kind ∈ kinds ↔ kind ∈ kinds') →
      ((l.generateBatch Store.sink kinds batch).run ∅).2.files =
        ((l.generateBatch Store.sink kinds' batch').run ∅).2.files := by
  constructor
  · refine ⟨l.planSection (Definition.keyOf? batch) [],
      l.plannedFor (Definition.keyOf? batch), ?_⟩
    intro kinds batch' hperm
    have hplan : (l.planBatch kinds batch').Lists kinds batch'
        (l.planSection (Definition.keyOf? batch) []) (l.plannedFor (Definition.keyOf? batch)) := by
      rw [Report.Lists, Layout.sections_planBatch, Definition.keyOf?_of_perm distinct hperm]
      apply List.map_congr_left
      intro d _
      exact l.planSection_eq _ kinds d
    refine ⟨hplan, ?_⟩
    intro s hroom
    obtain ⟨hreport, -⟩ := l.generateBatch_of_room hroom
    rw [hreport]
    exact hplan.carriedOut
  · intro kinds kinds' batch' hperm hkinds
    rw [l.files_generateBatch, l.files_generateBatch]
    exact Store.filesAfter_of_mem_iff (Layout.separate_renderedBatch distinct)
      (Layout.mem_renderedBatch_of_perm distinct hperm hkinds)

/-- An order and a line of it, with a definition that cannot be built between them, turned round. -/
theorem orders_rearranged :
    let l := Layout.conventional "/sln" "Shop"
    let batch := [Definition.orderLine, { draft := { name := " " } }, Definition.order]
    Definition.DistinctNames batch ∧ batch.Perm batch.reverse ∧
    Definition.keyOf? batch "Order" = some "OrderNo" ∧
    ((l.generateBatch Store.sink [.deleteCommandTest, .deleteFeature] batch).run ∅).2.files =
      ((l.generateBatch Store.sink [.deleteFeature, .deleteCommandTest, .deleteFeature]
        batch.reverse).run ∅).2.files := by
  intro l batch
  have distinct : Definition.DistinctNames batch := by decide +kernel
  have hperm : batch.Perm batch.reverse := (List.reverse_perm batch).symm
  have hkinds : ∀ kind : ArtifactKind, kind ∈ [ArtifactKind.deleteCommandTest, .deleteFeature] ↔
      kind ∈ [ArtifactKind.deleteFeature, .deleteCommandTest, .deleteFeature] := by
    intro kind
    cases kind <;> decide
  exact ⟨distinct, hperm, by decide +kernel,
    (batch_order_irrelevant l distinct).2 _ _ _ hperm hkinds⟩

end Scaffold
