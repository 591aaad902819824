/-
  Scaffold/Proofs/Layout/Places.lean
  ==================================
  **Where resolved classes lie.**

  Every folder that a layout knows has a name of identifiers, so whatever is resolved in it lies
  below its root: the path has the components of the root, then one component for each segment, then
  the file (`ClassPath.IsBelow`). No segment can lead out of the root again. For the artifacts of an
  entity the segments are known exactly (`Layout.isBelow_of_artifact`).
-/
import Scaffold.Proofs.Entity.Names
import Scaffold.Layout

namespace Scaffold

/-! ### Class paths below a root -/

/-- The class path of `file` in the folder `segments` below `root`. -/
structure ClassPath.IsBelow (p : ClassPath) (root : String) (segments : List String)
    (file : String) : Prop where
  segments_eq : p.segments = segments
  plain : ∀ piece ∈ segments ++ [file], Path.IsPlain piece
  directory : Path.components p.directory = Path.components root ++ segments.map .name
  full_path : Path.components p.fullPath = Path.components root ++ (segments ++ [file]).map .name
  parent : Path.parent? p.fullPath = some p.directory

theorem ClassPath.isBelow_ofSegments {root file : String} {segments : List String}
    (hroot : root ≠ "") (hsegments : segments ≠ [])
    (hplain : ∀ piece ∈ segments ++ [file], Path.IsPlain piece) :
    (ofSegments root segments file).IsBelow root segments file := by
  have hfile : Path.IsPlain file := hplain file (by simp)
  have hfront : ∀ piece ∈ segments, Path.IsPlain piece := fun piece hpiece =>
    hplain piece (List.mem_append_left _ hpiece)
  have hdirectory : Path.components (segments.foldl Path.join root) =
      Path.components root ++ segments.map .name :=
    Path.components_foldl_join hroot hfront
  have hends : Path.EndsPlain (segments.foldl Path.join root) :=
    Path.endsPlain_foldl_join hroot hsegments hfront
  constructor
  · rfl
  · exact hplain
  · exact hdirectory
  · have hjoin := Path.components_join hends.ne_empty hfile
    rw [hdirectory] at hjoin
    simpa [ofSegments, List.map_append] using hjoin
  · exact Path.parent?_join hends hfile

/-! ### Folders -/

/-- A folder whose names are identifiers, the project's suffix included. -/
structure Folder.IsNamed (folder : Folder) : Prop where
  suffix : ∀ suffix, folder.projectSuffix = some suffix →
    suffix = "" ∨ ∃ name, Name.isIdentifier name = true ∧ suffix = "." ++ name
  folders : ∀ name ∈ folder.folders, Name.isIdentifier name = true
  not_empty : folder.folders ≠ []

namespace Folder

theorem isNamed_project {root : Root} (name : String) {folders : List String}
    (hname : Name.isIdentifier name = true) (hne : folders ≠ [])
    (hfolders : ∀ folder ∈ folders, Name.isIdentifier folder = true) :
    IsNamed ⟨root, some ("." ++ name), folders⟩ := by
  refine ⟨?_, hfolders, hne⟩
  rintro _ ⟨⟩
  exact .inr ⟨name, hname, rfl⟩

theorem isNamed_plain {root : Root} {folders : List String} (hne : folders ≠ [])
    (hfolders : ∀ folder ∈ folders, Name.isIdentifier folder = true) :
    IsNamed ⟨root, some "", folders⟩ := by
  refine ⟨?_, hfolders, hne⟩
  rintro _ ⟨⟩
  exact .inl rfl

variable {e : Entity}

theorem isNamed_fakes {name : String} (h : Name.isIdentifier name = true) :
    (fakes name).IsNamed := by
  refine isNamed_project "SharedTestHelpers" (by decide) (List.cons_ne_nil _ _) ?_
  simpa using ⟨by decide, h⟩

theorem isNamed_services : services.IsNamed :=
  isNamed_plain (List.cons_ne_nil _ _) (by decide)

theorem isNamed_exceptions : exceptions.IsNamed := by
  refine ⟨?_, by decide, List.cons_ne_nil _ _⟩
  rintro suffix ⟨⟩

section Plural

variable (h : Name.isIdentifier e.plural = true)

include h

theorem isNamed_featureTests : (featureTests e).IsNamed := by
  refine isNamed_project "IntegrationTests" (by decide) (List.cons_ne_nil _ _) ?_
  simpa using ⟨by decide, h⟩

theorem isNamed_unitTests : (unitTests e).IsNamed := by
  refine isNamed_project "UnitTests" (by decide) (List.cons_ne_nil _ _) ?_
  simpa using ⟨by decide, by decide, h⟩

theorem isNamed_features : (features e).IsNamed := by
  refine isNamed_plain (List.cons_ne_nil _ _) ?_
  simpa using ⟨by decide, h, by decide⟩

theorem isNamed_entityClass : (entityClass e).IsNamed := by
  refine isNamed_plain (List.cons_ne_nil _ _) ?_
  simpa using ⟨by decide, h⟩

theorem isNamed_entityServices : (entityServices e).IsNamed := by
  refine isNamed_plain (List.cons_ne_nil _ _) ?_
  simpa using ⟨by decide, h, by decide⟩

theorem isNamed_dtos : (dtos e).IsNamed := by
  refine isNamed_plain (List.cons_ne_nil _ _) ?_
  simpa using ⟨by decide, h, by decide⟩

end Plural

theorem isNamed_ofArtifact (he : e.IsNamed) (kind : ArtifactKind) :
    (ofArtifact e kind).IsNamed := by
  cases kind with
  | deleteFeature => exact isNamed_features he.plural
  | deleteCommandTest => exact isNamed_featureTests he.plural
  | updateEntityTest => exact isNamed_unitTests he.plural
  | entityFaker => exact isNamed_fakes he.name
  | creationDtoFaker => exact isNamed_fakes he.name
  | updateDtoFaker => exact isNamed_fakes he.name

/-- Every artifact lies in a project. -/
theorem exists_projectSuffix (e : Entity) (kind : ArtifactKind) :
    ∃ suffix, (ofArtifact e kind).projectSuffix = some suffix := by
  cases kind <;> exact ⟨_, rfl⟩

end Folder

/-! ### Resolving -/

namespace Layout

variable {l : Layout} {e : Entity} {folder : Folder} {file : String} {p : ClassPath}

theorem projectFolder_eq_ok_iff {suffix name : String} :
    l.projectFolder suffix = .ok name ↔
      Name.isDotted (Text.trim l.project) = true ∧ Text.trim l.project ++ suffix = name := by
  unfold projectFolder
  by_cases hempty : (Text.trim l.project).isEmpty = true
  · -- an empty name has one part, which is no identifier
    have hnot : Name.isDotted (Text.trim l.project) = false := by
      rw [String.isEmpty_iff.mp hempty]
      decide
    simp [hempty, hnot]
  · by_cases hdotted : Name.isDotted (Text.trim l.project) = true
    · simp [hempty, hdotted]
    · simp [hempty, hdotted]

theorem segments_eq_ok_iff {suffix : String} {segments : List String}
    (hsuffix : folder.projectSuffix = some suffix) :
    l.segments folder = .ok segments ↔
      Name.isDotted (Text.trim l.project) = true ∧
        (Text.trim l.project ++ suffix) :: folder.folders = segments := by
  unfold Layout.segments
  simp only [hsuffix]
  cases hproject : l.projectFolder suffix with
  | error reason =>
    have hnot : ¬Name.isDotted (Text.trim l.project) = true := by
      intro hdotted
      rw [projectFolder_eq_ok_iff.mpr ⟨hdotted, rfl⟩] at hproject
      cases hproject
    simp [Except.map, hnot]
  | ok name =>
    obtain ⟨hdotted, rfl⟩ := projectFolder_eq_ok_iff.mp hproject
    simp [Except.map, hdotted]

theorem resolve_eq_ok_iff :
    l.resolve e folder file = .ok p ↔ folder.root.path l ≠ "" ∧
      (∀ c ∈ file.toList, c ≠ '/' ∧ c ≠ '\\') ∧
        ∃ segments, l.segments folder = .ok segments ∧
          ClassPath.ofSegments (folder.root.path l) segments file = p := by
  unfold resolve
  by_cases hroot : folder.root.path l = ""
  · simp [hroot]
  by_cases hfile : file.toList.any (fun c => c == '/' || c == '\\') = true
  · have hnot : ¬∀ c ∈ file.toList, c ≠ '/' ∧ c ≠ '\\' := by
      obtain ⟨c, hc, hsep⟩ := List.any_eq_true.mp hfile
      intro hall
      have hfree := hall c hc
      simp [hfree.1, hfree.2] at hsep
    simp [hroot, hfile, hnot]
  · have hall : ∀ c ∈ file.toList, c ≠ '/' ∧ c ≠ '\\' := by
      intro c hc
      constructor
      · rintro rfl
        exact hfile (List.any_eq_true.mpr ⟨_, hc, by decide⟩)
      · rintro rfl
        exact hfile (List.any_eq_true.mpr ⟨_, hc, by decide⟩)
    cases hsegments : l.segments folder with
    | error reason => simp [hroot, hfile]
    | ok segments =>
      simp only [hroot, hfile, String.isEmpty_iff, if_false, Bool.false_eq_true, ne_eq,
        not_false_eq_true, true_and, Except.ok.injEq, exists_eq_left']
      exact ⟨fun h => ⟨hall, h⟩, fun h => h.2⟩

/-- A file is resolved for the name of an entity, whatever else the entity holds. -/
theorem resolve_of_name_eq {other : Entity} (h : e.name = other.name) :
    l.resolve e folder file = l.resolve other folder file := by
  unfold resolve unresolvable
  rw [h]

/-- The keys of its parents have no say in where an artifact belongs. -/
theorem artifact_withParentKeys (e : Entity) (keyOf? : String → Option String)
    (kind : ArtifactKind) : l.artifact (e.withParentKeys keyOf?) kind = l.artifact e kind := by
  have hfolder : Folder.ofArtifact (e.withParentKeys keyOf?) kind = Folder.ofArtifact e kind := by
    cases kind <;> rfl
  rw [artifact, hfolder]
  exact resolve_of_name_eq rfl

/-- What a folder is called has no piece that could lead out of it. -/
theorem isDotted_of_segments {segments : List String} (hnamed : folder.IsNamed)
    (h : l.segments folder = .ok segments) :
    segments ≠ [] ∧ ∀ segment ∈ segments, Name.isDotted segment = true := by
  have hfolders : ∀ name ∈ folder.folders, Name.isDotted name = true := fun name hname =>
    Name.isDotted_of_isIdentifier (hnamed.folders name hname)
  cases hsuffix : folder.projectSuffix with
  | none =>
    unfold Layout.segments at h
    rw [hsuffix] at h
    cases h
    exact ⟨hnamed.not_empty, hfolders⟩
  | some suffix =>
    obtain ⟨hproject, rfl⟩ := (segments_eq_ok_iff hsuffix).mp h
    refine ⟨List.cons_ne_nil _ _, ?_⟩
    intro segment hsegment
    rcases List.mem_cons.mp hsegment with rfl | hsegment
    · rcases hnamed.suffix suffix hsuffix with rfl | ⟨name, hname, rfl⟩
      · rw [String.append_empty]
        exact hproject
      · rw [← String.append_assoc]
        exact Name.isDotted_append hproject (Name.isDotted_of_isIdentifier hname)
    · exact hfolders segment hsegment

theorem isDotted_nameSpace (hnamed : folder.IsNamed) (h : l.resolve e folder file = .ok p) :
    Name.isDotted p.nameSpace = true := by
  obtain ⟨-, -, segments, hsegments, rfl⟩ := resolve_eq_ok_iff.mp h
  obtain ⟨hne, hdotted⟩ := isDotted_of_segments hnamed hsegments
  exact Name.isDotted_joinWith hne hdotted

theorem namespaceOf_eq_ok_iff {name : String} :
    l.namespaceOf e folder = .ok name ↔ ∃ p, l.resolve e folder "" = .ok p ∧ p.nameSpace = name :=
  map_eq_ok_iff

theorem isDotted_of_namespaceOf {name : String} (hnamed : folder.IsNamed)
    (h : l.namespaceOf e folder = .ok name) : Name.isDotted name = true := by
  obtain ⟨p, hp, rfl⟩ := namespaceOf_eq_ok_iff.mp h
  exact isDotted_nameSpace hnamed hp

/-- The namespace of a folder is that of every class in it. -/
theorem resolve_of_namespaceOf (other : Entity) {name : String}
    (h : l.namespaceOf e folder = .ok name) (hfile : ∀ c ∈ file.toList, c ≠ '/' ∧ c ≠ '\\') :
    ∃ p, l.resolve other folder file = .ok p ∧ p.nameSpace = name := by
  obtain ⟨q, hq, rfl⟩ := namespaceOf_eq_ok_iff.mp h
  obtain ⟨hroot, -, segments, hsegments, rfl⟩ := resolve_eq_ok_iff.mp hq
  exact ⟨_, resolve_eq_ok_iff.mpr ⟨hroot, hfile, segments, hsegments, rfl⟩, rfl⟩

/-- What is resolved in a folder lies in directories below its root, each with a plain name. -/
theorem exists_plain_segments (hnamed : folder.IsNamed) (h : l.resolve e folder file = .ok p) :
    folder.root.path l ≠ "" ∧ ∃ segments, segments ≠ [] ∧
      (∀ segment ∈ segments, Path.IsPlain segment) ∧
        ClassPath.ofSegments (folder.root.path l) segments file = p := by
  obtain ⟨hroot, -, segments, hsegments, rfl⟩ := resolve_eq_ok_iff.mp h
  obtain ⟨hne, hdotted⟩ := isDotted_of_segments hnamed hsegments
  refine ⟨hroot, segments, hne, ?_, rfl⟩
  intro segment hsegment
  exact Name.isPlain_of_isDotted (hdotted segment hsegment)

theorem isBelow_of_resolve (hnamed : folder.IsNamed) (hfile : Path.IsPlain file)
    (h : l.resolve e folder file = .ok p) :
    p.IsBelow (folder.root.path l) p.segments file := by
  obtain ⟨hroot, segments, hne, hsegments, rfl⟩ := exists_plain_segments hnamed h
  refine ClassPath.isBelow_ofSegments hroot hne ?_
  intro piece hpiece
  rcases List.mem_append.mp hpiece with hsegment | hlast
  · exact hsegments piece hsegment
  · rw [List.mem_singleton.mp hlast]
    exact hfile

/-! ### Artifacts -/

theorem segments_of_artifact {kind : ArtifactKind} {suffix : String}
    (h : l.artifact e kind = .ok p)
    (hsuffix : (Folder.ofArtifact e kind).projectSuffix = some suffix) :
    p.segments = (Text.trim l.project ++ suffix) :: (Folder.ofArtifact e kind).folders := by
  obtain ⟨-, -, segments, hsegments, rfl⟩ := resolve_eq_ok_iff.mp h
  exact ((segments_eq_ok_iff hsuffix).mp hsegments).2.symm

/-- A file name without separators that ends in `.cs` is one piece of a path. -/
theorem isPlain_of_artifact {kind : ArtifactKind} (h : l.artifact e kind = .ok p) :
    Path.IsPlain (kind.fileName e.name) := by
  obtain ⟨-, hfile, -⟩ := resolve_eq_ok_iff.mp h
  have hends : ∀ s : String, ¬Text.endsWith s ".cs" = true → kind.fileName e.name ≠ s := by
    rintro s hs rfl
    exact hs (Text.endsWith_iff.mpr ⟨kind.className e.name, rfl⟩)
  constructor
  · exact hends "" (by decide)
  · exact hends "." (by decide)
  · exact hends ".." (by decide)
  · exact fun hmem => (hfile '/' hmem).1 rfl
  · exact fun hmem => (hfile '\\' hmem).2 rfl

theorem className_of_artifact {kind : ArtifactKind} (h : l.artifact e kind = .ok p) :
    p.className = kind.className e.name := by
  have hstem : Path.stem? (kind.fileName e.name) = some (kind.className e.name) :=
    Path.stem?_append_cs (kind.className_ne_empty e.name) (isPlain_of_artifact h)
  obtain ⟨-, -, segments, -, rfl⟩ := resolve_eq_ok_iff.mp h
  rw [ClassPath.ofSegments, hstem, Option.getD_some]

theorem isIdentifier_of_artifact (he : e.IsNamed) {kind : ArtifactKind}
    (h : l.artifact e kind = .ok p) : Name.isIdentifier p.className = true := by
  rw [className_of_artifact h]
  exact ArtifactKind.isIdentifier_className he.name kind

/-- **Where an artifact lies**: below the root of its folder, in the project folder and the folders
of its kind, under the file name of its kind. -/
theorem isBelow_of_artifact (he : e.IsNamed) {kind : ArtifactKind} {suffix : String}
    (h : l.artifact e kind = .ok p)
    (hsuffix : (Folder.ofArtifact e kind).projectSuffix = some suffix) :
    p.IsBelow ((Folder.ofArtifact e kind).root.path l)
      ((Text.trim l.project ++ suffix) :: (Folder.ofArtifact e kind).folders)
      (kind.fileName e.name) := by
  rw [← segments_of_artifact h hsuffix]
  exact isBelow_of_resolve (Folder.isNamed_ofArtifact he kind) (isPlain_of_artifact h) h

end Layout

end Scaffold
