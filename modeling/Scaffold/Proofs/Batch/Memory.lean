/-
  Scaffold/Proofs/Batch/Memory.lean
  =================================
  **Generating into memory does what was planned, and doing it again changes nothing.**

  Writing an artifact into a store can fail for one reason only: a file stands where the artifact
  needs its directory, so that the store takes the directory to be there. A store without such a
  file has room for the artifacts of a batch (`Store.HasRoom`). Generating keeps the room, because
  the name of a generated file has a dot in it and the folder of an artifact has none
  (`Layout.fullPath_ne_directory`). So the whole batch comes out as planned
  (`Layout.generateBatch_of_room`), a second time as well, and by then the files are there.
-/
import Scaffold.Proofs.Batch.Faults
import Scaffold.Proofs.Layout.Places
import Scaffold.Proofs.Render.Delete
import Scaffold.Proofs.Store.Order

namespace Scaffold

/-! ### Plans carried out -/

/-- The outcome with the path written instead of planned. -/
def Outcome.carriedOut : Outcome → Outcome
  | planned kind path => written kind path
  | outcome => outcome

def Section.carriedOut (s : Section) : Section :=
  { s with artifacts := s.artifacts.map Outcome.carriedOut }

/-- The report on a run in which everything went as planned. -/
def Report.carriedOut (r : Report) : Report :=
  { isDryRun := false, sections := r.sections.map Section.carriedOut }

/-! ### The artifacts of a batch -/

namespace Layout

variable (l : Layout)

/-- The artifacts of a definition, as far as they can be rendered. -/
def renderedOf (keyOf? : String → Option String) (kinds : List ArtifactKind) (d : Definition) :
    List Rendered :=
  match d.draft.build with
  | .error _ => []
  | .ok e => kinds.filterMap fun kind =>
      (l.render (e.withParentKeys keyOf?) d.flags kind).toOption

/-- The artifacts of a batch, as far as they can be rendered. -/
def renderedBatch (kinds : List ArtifactKind) (batch : List Definition) : List Rendered :=
  batch.flatMap (l.renderedOf (Definition.keyOf? batch) kinds)

variable {l} {kinds : List ArtifactKind} {batch : List Definition} {artifact : Rendered}

theorem mem_renderedBatch_iff :
    artifact ∈ l.renderedBatch kinds batch ↔ ∃ d ∈ batch, ∃ e, d.draft.build = .ok e ∧
      ∃ kind ∈ kinds, l.render (e.withParentKeys (Definition.keyOf? batch)) d.flags kind =
        .ok artifact := by
  have hanswer : ∀ answer : Except DomainError Rendered,
      answer.toOption = some artifact ↔ answer = .ok artifact := by
    intro answer
    cases answer <;> simp [Except.toOption]
  unfold renderedBatch
  rw [List.mem_flatMap]
  refine exists_congr fun d => and_congr_right fun _ => ?_
  unfold renderedOf
  cases d.draft.build with
  | error cause => simp
  | ok e => simp [List.mem_filterMap, hanswer]

theorem exists_artifact_of_mem (h : artifact ∈ l.renderedBatch kinds batch) :
    ∃ (e : Entity) (kind : ArtifactKind), e.IsNamed ∧ l.artifact e kind = .ok artifact.place := by
  obtain ⟨d, -, e, build, kind, -, hrender⟩ := mem_renderedBatch_iff.mp h
  obtain ⟨-, hplace, -⟩ := render_eq_ok_iff.mp hrender
  rw [artifact_withParentKeys] at hplace
  exact ⟨e, kind, Draft.isNamed_of_build build, hplace⟩

/-! ### Files and directories -/

/-- **No artifact is written where another one needs a directory**: its name ends in `.cs`, and the
folders are identifiers. -/
theorem fullPath_ne_directory {e e' : Entity} {kind kind' : ArtifactKind} {p p' : ClassPath}
    (he : e.IsNamed) (he' : e'.IsNamed) (h : l.artifact e kind = .ok p)
    (h' : l.artifact e' kind' = .ok p') :
    Path.components p.fullPath ≠ Path.components p'.directory := by
  intro hpath
  obtain ⟨suffix, hsuffix⟩ := Folder.exists_projectSuffix e kind
  obtain ⟨suffix', hsuffix'⟩ := Folder.exists_projectSuffix e' kind'
  have hnamed : (Folder.ofArtifact e' kind').IsNamed := Folder.isNamed_ofArtifact he' kind'
  have hfile := (isBelow_of_artifact he h hsuffix).full_path
  have hdirectory := (isBelow_of_artifact he' h' hsuffix').directory
  obtain ⟨front, folder, hfolders⟩ :
      ∃ front folder, (Folder.ofArtifact e' kind').folders = front ++ [folder] :=
    ⟨_, _, (List.dropLast_concat_getLast hnamed.not_empty).symm⟩
  rw [hpath, hdirectory, hfolders] at hfile
  -- whatever the projects are, the last components would have to be the same
  have hlast : folder = kind.fileName e.name := by
    have hends := congrArg (·.reverse.head?) hfile
    simpa using hends
  have hidentifier : Name.isIdentifier (kind.fileName e.name) = true := by
    rw [← hlast]
    exact hnamed.folders folder (by simp [hfolders])
  have hdot : '.' ∈ (kind.fileName e.name).toList := by
    rw [ArtifactKind.fileName, String.toList_append]
    exact List.mem_append_right _ (by decide)
  exact Name.ne_dot_of_isPart (Name.isPart_of_mem hidentifier '.' hdot) rfl

end Layout

/-- Artifacts that can be written one after the other: each into a directory, and none where
another one needs a directory. -/
structure Rendered.Coexist (artifacts : List Rendered) : Prop where
  parent : ∀ a ∈ artifacts, Path.parent? a.path = some a.place.directory
  rooted : ∀ a ∈ artifacts, Path.components a.place.directory ≠ []
  apart : ∀ a ∈ artifacts, ∀ b ∈ artifacts, Path.same a.path b.place.directory = false

theorem Layout.coexist_renderedBatch (l : Layout) (kinds : List ArtifactKind)
    (batch : List Definition) : Rendered.Coexist (l.renderedBatch kinds batch) := by
  have hbelow : ∀ a ∈ l.renderedBatch kinds batch, ∃ root segments file,
      segments ≠ [] ∧ a.place.IsBelow root segments file := by
    intro a ha
    obtain ⟨e, kind, he, hplace⟩ := exists_artifact_of_mem ha
    obtain ⟨suffix, hsuffix⟩ := Folder.exists_projectSuffix e kind
    exact ⟨_, _, _, List.cons_ne_nil _ _, isBelow_of_artifact he hplace hsuffix⟩
  constructor
  · intro a ha
    obtain ⟨root, segments, file, -, h⟩ := hbelow a ha
    exact h.parent
  · intro a ha
    obtain ⟨root, segments, file, hne, h⟩ := hbelow a ha
    rw [h.directory]
    simp [hne]
  · intro a ha b hb
    obtain ⟨e, kind, he, hplace⟩ := exists_artifact_of_mem ha
    obtain ⟨e', kind', he', hplace'⟩ := exists_artifact_of_mem hb
    refine Bool.eq_false_iff.mpr ?_
    intro hsame
    exact fullPath_ne_directory he he' hplace hplace' (Path.same_iff.mp hsame)

namespace Store

/-! ### Room in a store -/

/-- No file of the store stands where an artifact needs its directory. -/
def HasRoom (s : Store) (artifacts : List Rendered) : Prop :=
  ∀ file ∈ s.files, ∀ artifact ∈ artifacts,
    Path.same file.path artifact.place.directory = false

instance (s : Store) (artifacts : List Rendered) : Decidable (s.HasRoom artifacts) := by
  unfold HasRoom
  infer_instance

theorem hasRoom_empty (artifacts : List Rendered) : (∅ : Store).HasRoom artifacts := by
  intro file hfile
  cases hfile

variable {s s' : Store} {artifacts written : List Rendered} {artifact : Rendered}

theorem HasRoom.read?_directory (h : s.HasRoom artifacts) (hmem : artifact ∈ artifacts) :
    s.read? artifact.place.directory = none := by
  rw [read?_eq, textAt_eq_none_iff]
  intro file hfile
  exact h file hfile artifact hmem

/-- Writing artifacts leaves room for all of them. -/
theorem HasRoom.of_takes (h : s.HasRoom artifacts) (hcoexist : Rendered.Coexist artifacts)
    (htakes : s.Takes written s') (hwritten : ∀ a ∈ written, a ∈ artifacts) :
    s'.HasRoom artifacts := by
  intro file hfile artifact hmem
  have hread : s'.read? artifact.place.directory = none := by
    rw [htakes.read?, overridden_of_not_written]
    · exact h.read?_directory hmem
    · intro a ha
      exact hcoexist.apart a (hwritten a ha) artifact hmem
  rw [read?_eq, textAt_eq_none_iff] at hread
  exact hread file hfile

theorem mem_lineage_self {cs : List Path.Component} (h : cs ≠ []) : cs ∈ lineage cs := by
  induction cs with
  | nil => exact absurd rfl h
  | cons c cs ih =>
    rw [lineage]
    by_cases hnil : cs = []
    · rw [hnil]
      exact List.mem_cons_self
    · exact List.mem_cons_of_mem _ (List.mem_map_of_mem (ih hnil))

theorem hasDirectory_createDirectories (s : Store) {directory : String}
    (h : Path.components directory ≠ []) :
    (s.createDirectories directory).hasDirectory directory = true := by
  have hmem := mem_lineage_self h
  simp [hasDirectory, createDirectories, hmem]

theorem prepare_sink (s : Store) (directory : String) :
    (Store.sink.prepare directory).run s =
      ((.ok (), if s.holds directory then s else s.createDirectories directory) :
        Except Failure Unit × Store) := by
  simp only [Sink.prepare, Store.sink, StateT.run_bind, StateT.run_get, pure_bind]
  cases s.holds directory <;> rfl

theorem deliver_sink_of_accepts (h : s.accepts artifact.path = true) :
    ((Store.sink.deliver artifact (.ok ())).run s).1 = .ok () := by
  have hwrite : s.write artifact.path artifact.content =
      .ok { s with files := insertFile artifact.path artifact.content s.files,
                   writes := s.writes + 1 } := if_pos h
  simp only [Sink.deliver, Store.sink, StateT.run_bind, StateT.run_get, pure_bind, hwrite]
  rfl

/-- Where no file is, a directory is there once it was asked for. -/
theorem hasDirectory_prepared {directory : String} (hread : s.read? directory = none)
    (hrooted : Path.components directory ≠ []) :
    (if s.holds directory then s else s.createDirectories directory).hasDirectory directory =
      true := by
  have hholds : s.holds directory = s.hasDirectory directory := by
    unfold read? at hread
    rw [holds, Option.map_eq_none_iff.mp hread]
    rfl
  rw [hholds]
  cases hheld : s.hasDirectory directory with
  | true => exact hheld
  | false => exact s.hasDirectory_createDirectories hrooted

/-- In a store with room an artifact is accepted. -/
theorem emit_of_room (h : s.HasRoom artifacts) (hcoexist : Rendered.Coexist artifacts)
    (hmem : artifact ∈ artifacts) : ((Store.sink.emit artifact).run s).1 = .ok () := by
  rw [Sink.emit_eq, StateT.run_bind, prepare_sink]
  apply deliver_sink_of_accepts
  rw [accepts, hcoexist.parent artifact hmem]
  simp [hasDirectory_prepared (h.read?_directory hmem) (hcoexist.rooted artifact hmem)]

end Store

/-! ### A batch in a store with room -/

namespace Layout

variable (l : Layout) {s s' : Store} {artifacts : List Rendered}

theorem generateOutcome_of_room (hcoexist : Rendered.Coexist artifacts) {e : Entity} {flags : Flags}
    {kind : ArtifactKind} {o : Outcome}
    (hmem : ∀ artifact, l.render e flags kind = .ok artifact → artifact ∈ artifacts)
    (step : (l.generateOutcome Store.sink e flags kind).run s = (o, s'))
    (hs : s.HasRoom artifacts) :
    o = (l.planOutcome e flags kind).carriedOut ∧ s'.HasRoom artifacts := by
  have htakes := Sink.inFrontOf_self.carries.generateOutcome l e flags kind s
  rw [step] at htakes
  unfold planOutcome
  cases hrender : l.render e flags kind with
  | error cause =>
    rw [generateOutcome_of_error Store.sink hrender] at step
    cases step
    exact ⟨rfl, hs⟩
  | ok artifact =>
    have hartifact : artifact ∈ artifacts := hmem artifact hrender
    obtain rfl : o = .written kind artifact.path := by
      rw [generateOutcome_of_ok Store.sink hrender, StateT.run_map] at step
      have hanswer :
          Outcome.ofEmission kind artifact.path ((Store.sink.emit artifact).run s).1 = o :=
        congrArg Prod.fst step
      rw [Store.emit_of_room hs hcoexist hartifact] at hanswer
      exact hanswer.symm
    refine ⟨rfl, hs.of_takes hcoexist htakes ?_⟩
    intro a ha
    simp only [written?, hrender, Except.toOption, Option.toList_some, List.mem_singleton] at ha
    rw [ha]
    exact hartifact

section Batch

variable {kinds : List ArtifactKind} {batch : List Definition}

theorem sectionOf_of_room {d : Definition} (hd : d ∈ batch) {r : Section}
    (step : (sectionOf (Definition.keyOf? batch) (l.generateOutcome Store.sink) kinds d).run s =
      (r, s'))
    (hs : s.HasRoom (l.renderedBatch kinds batch)) :
    r = (l.planSection (Definition.keyOf? batch) kinds d).carriedOut ∧
      s'.HasRoom (l.renderedBatch kinds batch) := by
  unfold planSection
  cases SectionRun.of_step step with
  | refused refusal =>
    rw [refusal]
    exact ⟨rfl, hs⟩
  | @built _ _ e outcomes build run =>
    rw [build]
    have hmem : ∀ kind ∈ kinds, ∀ artifact,
        l.render (e.withParentKeys (Definition.keyOf? batch)) d.flags kind = .ok artifact →
          artifact ∈ l.renderedBatch kinds batch := by
      intro kind hkind artifact hrender
      exact mem_renderedBatch_iff.mpr ⟨d, hd, e, build, kind, hkind, hrender⟩
    obtain ⟨houtcomes, hs'⟩ := run.eq_map_of_invariant
      (I := fun t => t.HasRoom (l.renderedBatch kinds batch))
      (fun kind hkind => l.generateOutcome_of_room (l.coexist_renderedBatch kinds batch)
        (hmem kind hkind)) hs
    refine ⟨?_, hs'⟩
    simp only [Section.carriedOut, houtcomes, List.map_map, Function.comp_def]

/-- **In a store with room everything goes as planned**, and there is room afterwards. -/
theorem generateBatch_of_room (hs : s.HasRoom (l.renderedBatch kinds batch)) :
    ((l.generateBatch Store.sink kinds batch).run s).1 = (l.planBatch kinds batch).carriedOut ∧
      ((l.generateBatch Store.sink kinds batch).run s).2.HasRoom
        (l.renderedBatch kinds batch) := by
  obtain ⟨hsections, hroom⟩ := (l.runs_generateBatch Store.sink kinds batch s).eq_map_of_invariant
    (I := fun t => t.HasRoom (l.renderedBatch kinds batch))
    (fun d hd => l.sectionOf_of_room hd) hs
  refine ⟨?_, hroom⟩
  have hplan : (l.planBatch kinds batch).carriedOut.sections =
      batch.map fun d => (l.planSection (Definition.keyOf? batch) kinds d).carriedOut := by
    rw [Report.carriedOut, sections_planBatch, List.map_map]
    rfl
  exact congrArg (Report.mk false) (hsections.trans hplan.symm)

theorem writtenOf_carriedOut (keyOf? : String → Option String) (kinds : List ArtifactKind)
    (d : Definition) :
    l.writtenOf keyOf? d (l.planSection keyOf? kinds d).carriedOut =
      l.renderedOf keyOf? kinds d := by
  unfold writtenOf planSection renderedOf
  cases d.draft.build with
  | error cause => rfl
  | ok e =>
    simp only [Section.carriedOut, List.filterMap_map]
    apply List.filterMap_congr
    intro kind _
    simp only [Function.comp_apply, planOutcome]
    cases hrender : l.render (e.withParentKeys keyOf?) d.flags kind with
    | error cause => rfl
    | ok artifact => simp [Outcome.carriedOut, written?, hrender]

/-- When everything goes as planned, what is written is what can be rendered. -/
theorem written_carriedOut (kinds : List ArtifactKind) (batch : List Definition) :
    l.written batch (l.planBatch kinds batch).carriedOut = l.renderedBatch kinds batch := by
  have hzip : ∀ f : Definition → Section,
      batch.zip (batch.map f) = batch.map fun d => (d, f d) := by
    intro f
    have hboth := List.zip_map' (f := id) (g := f) (l := batch)
    rw [List.map_id] at hboth
    exact hboth
  rw [written, Report.carriedOut, sections_planBatch, List.map_map, hzip, List.flatMap_map]
  apply List.flatMap_congr
  intro d _
  exact l.writtenOf_carriedOut _ kinds d

end Batch

/-- The store takes what the report says was written, in order. -/
theorem takes_generateBatch (kinds : List ArtifactKind) (batch : List Definition) (s : Store) :
    let run := (l.generateBatch Store.sink kinds batch).run s
    s.Takes (l.written batch run.1) run.2 ∧
      (l.written batch run.1).length = run.1.writtenCount :=
  ⟨Sink.inFrontOf_self.carries.generateBatch l kinds batch s,
    l.length_written Store.sink kinds batch s⟩

end Layout

/-- **Generating into memory does what was planned, and doing it again changes nothing.** In a store
without a file where a directory is needed, everything that can be rendered is written: at the path
that the plan gives it the store then holds its text, the last one where several share a path, and
all other files are those that were there. A second run has the same report and leaves the same
files, and adds as many writes as the first. -/
theorem generating_again_changes_nothing (l : Layout) (kinds : List ArtifactKind)
    (batch : List Definition) {s : Store} (reachable : s.Reachable)
    (room : s.HasRoom (l.renderedBatch kinds batch)) :
    let rendered := l.renderedBatch kinds batch
    let first := (l.generateBatch Store.sink kinds batch).run s
    let second := (l.generateBatch Store.sink kinds batch).run first.2
    first.1 = (l.planBatch kinds batch).carriedOut ∧
    (rendered.map Rendered.path = first.1.outcomes.filterMap (·.writtenPath?) ∧
      first.2.files = Store.filesAfter s.files rendered ∧
      ∀ path, first.2.read? path = Store.overridden s.read? rendered path) ∧
    second.1 = first.1 ∧
    second.2.files = first.2.files ∧
    first.2.writes = s.writes + first.1.writtenCount ∧
    second.2.writes = first.2.writes + first.1.writtenCount := by
  intro rendered first second
  obtain ⟨hfirst, hroom⟩ := l.generateBatch_of_room room
  obtain ⟨hsecond, -⟩ := l.generateBatch_of_room hroom
  have hreport : second.1 = first.1 := hsecond.trans hfirst.symm
  have hwritten : l.written batch first.1 = rendered := by
    rw [hfirst]
    exact l.written_carriedOut kinds batch
  have hpaths := l.path_written Store.sink kinds batch s
  obtain ⟨htakes, hlength⟩ := l.takes_generateBatch kinds batch s
  obtain ⟨htakes', hlength'⟩ := l.takes_generateBatch kinds batch first.2
  have hwrites : first.2.writes = s.writes + first.1.writtenCount := by
    rw [htakes.writes, hlength]
  have hwrites' : second.2.writes = first.2.writes + first.1.writtenCount := by
    rw [htakes'.writes, hlength', hreport]
  have hfiles : second.2.files = first.2.files := by
    have hagain : second.2.files = Store.filesAfter first.2.files (l.written batch second.1) :=
      htakes'.files
    rw [hagain, hreport, htakes.files]
    exact Store.filesAfter_twice reachable.ordered _
  rw [hwritten] at hpaths htakes
  exact ⟨hfirst, ⟨hpaths, htakes.files, htakes.read?⟩, hreport, hfiles, hwrites, hwrites'⟩

/-- Two definitions of an order overwrite each other, and a file that is there under another
spelling of its path, twice over. -/
theorem orders_generated_twice :
    let l := Layout.conventional "/sln" "Shop"
    let features := "/sln/src/Shop/Domain/Orders/Features"
    let before : Store :=
      { (∅ : Store).createDirectories features with
        files := [⟨features ++ "/./DeleteOrder.cs", "old"⟩], writes := 1 }
    let kinds := [.deleteFeature, .entityFaker]
    let batch : List Definition :=
      [{ draft :=
           { name := "order", properties := [{ name := "Id", type := .guid, isKey := true }] } },
       { draft :=
           { name := "Order", properties := [{ name := "No", type := .int, isKey := true }] } }]
    let rendered := l.renderedBatch kinds batch
    before.Reachable ∧ before.HasRoom rendered ∧
    let first := (l.generateBatch Store.sink kinds batch).run before
    let second := (l.generateBatch Store.sink kinds batch).run first.2
    first.1 = (l.planBatch kinds batch).carriedOut ∧
    (rendered.map Rendered.path = first.1.outcomes.filterMap (·.writtenPath?) ∧
      first.2.files = Store.filesAfter before.files rendered ∧
      ∀ path, first.2.read? path = Store.overridden before.read? rendered path) ∧
    second.1 = first.1 ∧
    second.2.files = first.2.files ∧
    first.2.writes = before.writes + first.1.writtenCount ∧
    second.2.writes = first.2.writes + first.1.writtenCount := by
  intro l features before kinds batch rendered
  have reachable : before.Reachable :=
    .write (.createDirectories .empty features) (if_pos (by decide +kernel))
  have room : before.HasRoom rendered := by
    decide +kernel
  refine ⟨reachable, room, ?_⟩
  exact generating_again_changes_nothing l kinds batch reachable room

end Scaffold
