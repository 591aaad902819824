/-
  Scaffold/Proofs/Listing.lean
  ============================
  **A listing shows the files that a run writes.**

  The command `list` takes any name that is an identifier once the blanks around it are gone, and
  shows each kind with the file name that it has for the name in PascalCase. An entity declared
  under that name is checked the other way round: the name is put into PascalCase first and must be
  an identifier then. The two agree on the file names (`Layout.fileName_of_render`), in every report
  that a plan or a run makes (`Outcome.IsCalled`). They do not accept the same names: `_` and `_1`
  are identifiers, but nothing and a number in PascalCase. A listed name can be declared exactly if
  its first character but `_` is a letter.
-/
import Mathlib.Data.List.Nodup
import Scaffold.Program
import Scaffold.Proofs.Batch.Run
import Scaffold.Proofs.Entity.Built
import Scaffold.Proofs.Layout.Places
import Scaffold.Proofs.Name.Pascal
import Scaffold.Proofs.Render.Delete

namespace Scaffold

/-! ### Drafts with nothing but a name and a key -/

/-- An entity declared with a name and its key property. -/
def Draft.keyed (name : String) (key : Property) : Draft := { name, properties := [key] }

theorem Draft.build_keyed_iff {name : String} {key : Property} (isKey : key.isKey = true)
    (named : key.IsNamed) :
    (∃ e, (keyed name key).build = .ok e) ↔
      Text.isBlank name = false ∧ Name.isIdentifier (Name.pascal name) = true := by
  constructor
  · rintro ⟨e, build⟩
    have hadmissible : (keyed name key).Admissible := admissible_of_build build
    exact ⟨hadmissible.given, hadmissible.name⟩
  · rintro ⟨hgiven, hname⟩
    have hplural : (keyed name key).entityPlural = Plural.of (Name.pascal name) := by
      simp only [keyed, entityPlural, chosenPlural, Option.filter_none, Option.elim_none]
    have hlambda : (keyed name key).entityLambda = Name.defaultLambda (Name.pascal name) := by
      simp only [keyed, entityLambda, chosenLambda, Option.filter_none, Option.elim_none]
    apply Admissible.build
    constructor
    · exact hgiven
    · exact hname
    · rw [hplural]
      exact Plural.isIdentifier_of hname
    · rw [hlambda]
      exact Name.isIdentifier_defaultLambda hname
    · rw [hlambda]
      exact ⟨Name.isKeyword_defaultLambda hname, Name.isReserved_defaultLambda hname⟩
    · exact List.forall_mem_singleton.mpr named
    · exact List.nodup_singleton _
    · exact List.countP_eq_length.mpr (List.forall_mem_singleton.mpr isKey)

/-! ### Listings -/

namespace Program

/-- The listing that shows each kind with the given file name. -/
def listing (style : Style) (file : ArtifactKind → String) : Result :=
  if style.isJson then
    { output := Json.pretty (.list (ArtifactKind.all.map fun kind =>
        .table [("kind", .text kind.name), ("file", .text (file kind)),
          ("description", .text kind.description)])) ++ "\n" }
  else
    { output := style.console.print (.header "Artifact kinds:" ::
        ArtifactKind.all.map fun kind => .plain ("  " ++ Text.padRight 22 kind.name ++ " " ++
          Text.padRight 36 (file kind) ++ " " ++ kind.description)) }

variable {style : Style} {name : String}

theorem isIdentifier_of_list (accepted : (list style (some name)).problem = none) :
    Name.isIdentifier (Text.trim name) = true := by
  by_contra hnot
  simp [list, listedName, hnot] at accepted

theorem list_eq_listing (style : Style) (h : Name.isIdentifier (Text.trim name) = true) :
    list style (some name) = listing style fun kind => kind.fileName (Name.pascal name) := by
  simp only [list, listedName, h, if_true]
  rfl

end Program

/-! ### File names in reports -/

/-- The file of an artifact is called after its kind and the entity. -/
theorem Layout.fileName_of_render {l : Layout} {e : Entity} (he : e.IsNamed) {flags : Flags}
    {kind : ArtifactKind} {artifact : Rendered} (h : l.render e flags kind = .ok artifact) :
    Path.fileName? artifact.path = some (kind.fileName e.name) := by
  obtain ⟨-, hplace, -⟩ := render_eq_ok_iff.mp h
  have hbelow := isBelow_of_resolve (Folder.isNamed_ofArtifact he kind) (isPlain_of_artifact hplace)
    hplace
  have hpath := hbelow.full_path
  rw [List.map_append, ← List.append_assoc] at hpath
  exact Path.fileName?_of_components hpath

/-- What is written or would be written has the file name of its kind. -/
def Outcome.IsCalled (file : ArtifactKind → String) (outcome : Outcome) : Prop :=
  ∀ path, outcome.writtenPath? = some path ∨ outcome.plannedPath? = some path →
    Path.fileName? path = some (file outcome.kind)

theorem Outcome.isCalled_failed (file : ArtifactKind → String) (kind : ArtifactKind)
    (failure : Failure) : (failed kind failure).IsCalled file := by
  rintro path (h | h) <;> cases h

namespace Layout

variable (l : Layout) {e : Entity}

theorem isCalled_planOutcome (he : e.IsNamed) (flags : Flags) (kind : ArtifactKind) :
    (l.planOutcome e flags kind).IsCalled fun kind => kind.fileName e.name := by
  unfold planOutcome
  cases hrender : l.render e flags kind with
  | error cause => exact Outcome.isCalled_failed _ _ _
  | ok artifact =>
    rintro path (h | h)
    · cases h
    · cases h
      exact fileName_of_render he hrender

variable {σ : Type} (sink : Sink (StateM σ))

theorem isCalled_generateOutcome (he : e.IsNamed) (flags : Flags) (kind : ArtifactKind) (s : σ) :
    ((l.generateOutcome sink e flags kind).run s).1.IsCalled fun kind => kind.fileName e.name := by
  cases hrender : l.render e flags kind with
  | error cause =>
    rw [generateOutcome_of_error sink hrender]
    exact Outcome.isCalled_failed _ _ _
  | ok artifact =>
    rw [generateOutcome_of_ok sink hrender, StateT.run_map]
    rcases (sink.emit artifact).run s with ⟨_ | _, t⟩
    · exact Outcome.isCalled_failed _ _ _
    · rintro path (h | h)
      · cases h
        exact fileName_of_render he hrender
      · cases h

/-- In the section of a definition every file is called after the name of its draft. -/
theorem isCalled_planSection (kinds : List ArtifactKind) (batch : List Definition)
    (d : Definition) : ∀ outcome ∈ (l.planSection (Definition.keyOf? batch) kinds d).artifacts,
      outcome.IsCalled fun kind => kind.fileName (Name.pascal d.draft.name) := by
  unfold planSection
  cases build : d.draft.build with
  | error cause => exact List.forall_mem_nil _
  | ok e =>
    have hbuilt : (e.withParentKeys (Definition.keyOf? batch)).Built :=
      Definition.built_of_build build batch
    rw [← (Draft.describes_of_build build).name]
    intro outcome houtcome
    obtain ⟨kind, -, rfl⟩ := List.mem_map.mp houtcome
    exact l.isCalled_planOutcome hbuilt.isNamed d.flags kind

theorem isCalled_sectionOf (kinds : List ArtifactKind) (batch : List Definition) (d : Definition)
    (s : σ) : ∀ outcome ∈ ((sectionOf (Definition.keyOf? batch) (l.generateOutcome sink) kinds
        d).run s).1.artifacts,
      outcome.IsCalled fun kind => kind.fileName (Name.pascal d.draft.name) := by
  cases build : d.draft.build with
  | error cause =>
    rw [sectionOf_of_error build]
    exact List.forall_mem_nil _
  | ok e =>
    have hbuilt : (e.withParentKeys (Definition.keyOf? batch)).Built :=
      Definition.built_of_build build batch
    rw [sectionOf_of_ok build, ← (Draft.describes_of_build build).name]
    have hruns := Runs.of_mapM
      (l.generateOutcome sink (e.withParentKeys (Definition.keyOf? batch)) d.flags) s kinds
    exact hruns.forall_mem fun kind s =>
      l.isCalled_generateOutcome sink hbuilt.isNamed d.flags kind s

end Layout

/-- **A listing shows the files that a run writes.** Under a name that is listed an entity with a
key can be declared exactly if the first character of the name but `_` is a letter. Whatever else is
declared with the entity, its artifacts have the file names that are listed for their kinds; so have
all files in its sections of the plan of a batch and of a run against any sink. -/
theorem listed_files_are_generated (style : Program.Style) {name : String}
    (accepted : (Program.list style (some name)).problem = none) :
    (∀ key : Property, key.isKey = true → key.IsNamed →
      ((∃ e, (Draft.keyed name key).build = .ok e) ↔
        Name.opensWithLetter (Text.trim name) = true)) ∧
    ∃ file : ArtifactKind → String,
      (∀ told : Program.Style, Program.list told (some name) = Program.listing told file) ∧
      (∀ (d : Draft) (e : Entity), d.name = name → d.build = .ok e →
        ∀ (l : Layout) (flags : Flags) (kind : ArtifactKind) (artifact : Rendered),
          l.render e flags kind = .ok artifact →
          Path.fileName? artifact.path = some (file kind)) ∧
      ∀ (l : Layout) (kinds : List ArtifactKind) (batch : List Definition),
        let shown := fun (d : Definition) (r : Section) =>
          d.draft.name = name → ∀ outcome ∈ r.artifacts, outcome.IsCalled file
        List.Forall₂ shown batch (l.planBatch kinds batch).sections ∧
        ∀ {σ : Type} (sink : Sink (StateM σ)) (s : σ),
          List.Forall₂ shown batch ((l.generateBatch sink kinds batch).run s).1.sections := by
  have hidentifier : Name.isIdentifier (Text.trim name) = true :=
    Program.isIdentifier_of_list accepted
  constructor
  · intro key isKey named
    have hgiven : Text.isBlank name = false := by
      rw [Text.isBlank]
      exact String.isEmpty_eq_false_iff.mpr (Name.ne_empty_of_isIdentifier hidentifier)
    rw [Draft.build_keyed_iff isKey named, Name.isIdentifier_pascal_iff hidentifier]
    exact ⟨And.right, And.intro hgiven⟩
  · refine ⟨_, fun told => Program.list_eq_listing told hidentifier, ?_, ?_⟩
    · rintro d e rfl build l flags kind artifact hrender
      rw [← (Draft.describes_of_build build).name]
      exact Layout.fileName_of_render (Draft.isNamed_of_build build) hrender
    · intro l kinds batch shown
      constructor
      · rw [Layout.sections_planBatch, List.forall₂_map_right_iff, List.forall₂_same]
        rintro d - rfl
        exact l.isCalled_planSection kinds batch d
      · intro σ sink s
        refine (l.runs_generateBatch sink kinds batch s).forall₂ ?_
        rintro d t rfl
        exact l.isCalled_sectionOf sink kinds batch d t

/-- Blanks around a listed name and small letters in it are no obstacle. -/
theorem order_item_listed :
    let key : Property := { name := "Id", type := .guid, isKey := true }
    let shown := Program.list {} (some " order_item ")
    shown.problem = none ∧ key.isKey = true ∧ key.IsNamed ∧
      ∃ e file, (Draft.keyed " order_item " key).build = .ok e ∧ e.name = "OrderItem" ∧
        shown = Program.listing {} file ∧
        ∃ artifact, (Layout.conventional "/sln" "Shop").render e {} .deleteFeature = .ok artifact ∧
          artifact.path = "/sln/src/Shop/Domain/OrderItems/Features/DeleteOrderItem.cs" ∧
          Path.fileName? artifact.path = some (file .deleteFeature) := by
  intro key shown
  have accepted : shown.problem = none := by decide +kernel
  have isKey : key.isKey = true := rfl
  have named : key.IsNamed := ⟨by decide +kernel, by rintro _ ⟨⟩⟩
  obtain ⟨hdeclared, file, hlisting, hfiles, -⟩ := listed_files_are_generated {} accepted
  obtain ⟨e, build⟩ := (hdeclared key isKey named).mpr (by decide +kernel)
  have hname : e.name = "OrderItem" := by
    rw [(Draft.describes_of_build build).name]
    decide +kernel
  obtain ⟨e', build', hpath⟩ : ∃ e, (Draft.keyed " order_item " key).build = .ok e ∧
      ((Layout.conventional "/sln" "Shop").render e {} .deleteFeature).map (·.path) =
        .ok "/sln/src/Shop/Domain/OrderItems/Features/DeleteOrderItem.cs" :=
    exists_of_map_decide (by decide +kernel)
  obtain rfl : e = e' := Except.ok.inj (build.symm.trans build')
  obtain ⟨artifact, hrender, hpath⟩ := map_eq_ok_iff.mp hpath
  exact ⟨accepted, isKey, named, e, file, build, hname, hlisting {}, artifact, hrender, hpath,
    hfiles _ e rfl build _ _ _ artifact hrender⟩

/-- An underscore is listed, with `Delete.cs` as the file of the feature, and cannot be declared. -/
theorem underscore_listed_not_declared :
    let key : Property := { name := "Id", type := .guid, isKey := true }
    (Program.list {} (some "_")).problem = none ∧
      Program.list {} (some "_") = Program.listing {} (fun kind => kind.fileName "") ∧
      ArtifactKind.fileName .deleteFeature "" = "Delete.cs" ∧ key.isKey = true ∧ key.IsNamed ∧
      (Draft.keyed "_" key).build = .error (.invalidIdentifier "entity name" ""
        "must start with a letter or '_' and contain only letters, digits or '_'") := by
  intro key
  have named : key.IsNamed := ⟨by decide +kernel, by rintro _ ⟨⟩⟩
  exact ⟨by decide +kernel, by decide +kernel, by decide +kernel, rfl, named, by decide +kernel⟩

end Scaffold
