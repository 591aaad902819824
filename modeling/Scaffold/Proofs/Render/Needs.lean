/-
  Scaffold/Proofs/Render/Needs.lean
  =================================
  **What a layout must provide for a file of each kind.**

  A file is refused when something is missing for what its template looks up (`Layout.missing?`). That
  nothing is missing comes down to its kind (`Layout.Provides`): neither the flags nor the properties,
  the plural or the parents matter.
-/
import Scaffold.Proofs.Render.LookUps

namespace Scaffold

/-! ### Checks that need something of a layout -/

/-- The check answers when what it needs is there, and else refuses to resolve a name for the
entity. -/
structure Layout.Needs {α : Type} (e : Entity) (check : Except DomainError α) (needed : Prop) :
    Prop where
  answers : needed → ∃ answer, check = .ok answer
  refuses : ¬needed → ∃ file reason, check = .error (.unresolvableName e.name file reason)

namespace Layout.Needs

variable {α : Type} {e : Entity} {check : Except DomainError α} {needed : Prop}

/-- What is needed is that nothing is missing. -/
theorem of_missing {missing : Option (String × String)}
    (h : refusal? check = missing.map fun m => .unresolvableName e.name m.1 m.2)
    (hneeded : missing = none ↔ needed) : Needs e check needed where
  answers hthere := by
    rw [hneeded.mpr hthere, Option.map_none] at h
    exact refusal?_eq_none_iff.mp h
  refuses hnot := by
    cases missing with
    | none => exact absurd (hneeded.mp rfl) hnot
    | some m => exact ⟨m.1, m.2, refusal?_eq_some_iff.mp h⟩

theorem exists_ok_iff (h : Needs e check needed) : (∃ answer, check = .ok answer) ↔ needed := by
  refine ⟨fun hanswer => ?_, h.answers⟩
  by_contra hnot
  obtain ⟨file, reason, rfl⟩ := h.refuses hnot
  obtain ⟨answer, hanswer⟩ := hanswer
  cases hanswer

end Layout.Needs

/-! ### The six kinds -/

theorem Name.isDotted_iff {s : String} : isDotted s = true ↔
    ∃ names, names ≠ [] ∧ (∀ name ∈ names, isIdentifier name = true) ∧
      s = Text.joinWith "." names := by
  constructor
  · intro h
    exact ⟨Text.splitOn '.' s, Text.splitOn_ne_nil '.' s, List.all_eq_true.mp h,
      (Text.joinWith_splitOn toList_dot s).symm⟩
  · rintro ⟨names, hne, hnames, rfl⟩
    exact isDotted_joinWith hne fun name hname => isDotted_of_isIdentifier (hnames name hname)

namespace Layout

variable {l : Layout} {e : Entity}

/-- What the layout has to give for a file of the kind: a project whose name is made of identifiers
with dots between them, the sources, the tests for whatever is written there, and the solution for
what imports the exceptions. -/
structure Provides (l : Layout) (kind : ArtifactKind) : Prop where
  project : ∃ names, names ≠ [] ∧ (∀ name ∈ names, Name.isIdentifier name = true) ∧
    Text.trim l.project = Text.joinWith "." names
  src : l.src ≠ ""
  test : kind ≠ .deleteFeature → l.test ≠ ""
  solution : kind = .deleteFeature ∨ kind = .deleteCommandTest → l.solution ≠ ""

theorem provides_iff {kind : ArtifactKind} : l.Provides kind ↔
    Name.isDotted (Text.trim l.project) = true ∧ l.src ≠ "" ∧
      (kind ≠ .deleteFeature → l.test ≠ "") ∧
      (kind = .deleteFeature ∨ kind = .deleteCommandTest → l.solution ≠ "") := by
  rw [Name.isDotted_iff]
  exact ⟨fun ⟨project, src, test, solution⟩ => ⟨project, src, test, solution⟩,
    fun ⟨project, src, test, solution⟩ => ⟨project, src, test, solution⟩⟩

variable (l)

/-- A file of a kind hangs off the root of the sources or of the tests. -/
theorem path_root_ofArtifact (e : Entity) (kind : ArtifactKind) :
    (Folder.ofArtifact e kind).root.path l = if kind = .deleteFeature then l.src else l.test := by
  cases kind <;> rfl

theorem missing?_eq_none_iff (e : Entity) (kind : ArtifactKind) :
    l.missing? e kind = none ↔ l.Provides kind := by
  have hown := l.obstacle?_ofArtifact_eq_none_iff e kind
  rw [path_root_ofArtifact] at hown
  rw [provides_iff]
  unfold missing?
  split
  · next reason hreason =>
    rw [hreason] at hown
    grind
  · next hnone =>
    grind

variable (flags : Flags) (he : e.IsNamed) (kind : ArtifactKind)

include he

/-- A text needs of the layout what its kind needs. -/
theorem needs_content : Needs e (l.content e flags kind) (l.Provides kind) :=
  .of_missing (l.refusal?_content flags he kind) (l.missing?_eq_none_iff e kind)

/-- Its place needs no more. -/
theorem needs_render : Needs e (l.render e flags kind) (l.Provides kind) :=
  .of_missing (l.refusal?_render flags he kind) (l.missing?_eq_none_iff e kind)

end Layout

/-- **A file can be rendered exactly when the layout provides what its kind needs.** Whatever the
entity and its flags, there is a text, and a place for it, when there is a project name and there are
the roots that the kind needs. Otherwise the answer is that some name of the entity cannot be
resolved. Flags, properties, plural and parents have no part in it. -/
theorem rendered_iff_provided (l : Layout) {e : Entity} (built : e.Built) (flags : Flags)
    (kind : ArtifactKind) :
    ((∃ text, l.content e flags kind = .ok text) ↔ l.Provides kind) ∧
    ((∃ artifact, l.render e flags kind = .ok artifact) ↔ l.Provides kind) ∧
    (¬l.Provides kind →
      (∃ file reason, l.content e flags kind = .error (.unresolvableName e.name file reason)) ∧
      ∃ file reason, l.render e flags kind = .error (.unresolvableName e.name file reason)) ∧
    ∀ {other : Entity}, other.Built → ∀ others : Flags,
      ((∃ text, l.content other others kind = .ok text) ↔
        ∃ text, l.content e flags kind = .ok text) ∧
      ((∃ artifact, l.render other others kind = .ok artifact) ↔
        ∃ artifact, l.render e flags kind = .ok artifact) := by
  have hcontent := Layout.needs_content l flags built.isNamed kind
  have hrender := Layout.needs_render l flags built.isNamed kind
  refine ⟨hcontent.exists_ok_iff, hrender.exists_ok_iff, ?_, ?_⟩
  · intro hnot
    exact ⟨hcontent.refuses hnot, hrender.refuses hnot⟩
  · intro other hother others
    have hcontent' := Layout.needs_content l others hother.isNamed kind
    have hrender' := Layout.needs_render l others hother.isNamed kind
    exact ⟨hcontent'.exists_ok_iff.trans hcontent.exists_ok_iff.symm,
      hrender'.exists_ok_iff.trans hrender.exists_ok_iff.symm⟩

/-- Without a root for tests the delete feature of an order is rendered, and its faker is refused. -/
theorem order_without_tests :
    let l : Layout := { solution := "/sln", src := "/sln/src", test := "", project := " Shop.Core " }
    ∃ e : Entity, (Draft.bare "Order" "Orders").build = .ok e ∧
      (∃ artifact, l.render e {} .deleteFeature = .ok artifact) ∧
      ∃ file reason, l.render e {} .entityFaker = .error (.unresolvableName "Order" file reason) := by
  intro l
  obtain ⟨e, build, hname⟩ : ∃ e, (Draft.bare "Order" "Orders").build = .ok e ∧ e.name = "Order" :=
    exists_of_map_decide (by decide +kernel)
  have hprovides : l.Provides .deleteFeature :=
    Layout.provides_iff.mpr ⟨by decide +kernel, by decide, by decide, by decide⟩
  have hnot : ¬l.Provides .entityFaker := fun h => h.test (by decide) rfl
  obtain ⟨-, hrendered, -⟩ := rendered_iff_provided l (.draft build) {} .deleteFeature
  obtain ⟨-, -, hrefused, -⟩ := rendered_iff_provided l (.draft build) {} .entityFaker
  refine ⟨e, build, hrendered.mpr hprovides, ?_⟩
  rw [← hname]
  exact (hrefused hnot).2

end Scaffold
