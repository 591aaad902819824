/-
  Scaffold/Proofs/Layout/Collisions.lean
  ======================================
  **No two artifacts share a path.**

  File names alone do not tell artifacts apart: `DeleteOrderCommandTests.cs` is the delete feature of
  `OrderCommandTests` and the test of `Order`, and `FakeOrderForCreationDto.cs` belongs to two fakers
  as well. The folders decide, read from the file upwards, because the roots may be anything:

    * the fakers of an entity lie in a folder with its name;
    * three steps above a feature is `Domain`, three steps above a feature test is a project folder
      with a dot in its name.
-/
import Scaffold.Proofs.Layout.Places

namespace Scaffold

/-! ### Class names -/

namespace ArtifactKind

theorem className_injective (kind : ArtifactKind) {entity other : String}
    (h : kind.className entity = kind.className other) : entity = other := by
  rw [className_eq, className_eq, String.append_left_inj] at h
  exact (String.append_right_inj kind.before).mp h

/-- The words in front of the names differ in their first letters. -/
theorem before_eq {kind other : ArtifactKind} {entity entity' : String}
    (h : kind.className entity = other.className entity') : kind.before = other.before := by
  have hhead : ∀ (k : ArtifactKind) (name : String),
      (k.className name).toList.head? = k.before.toList.head? := by
    intro k name
    rw [className_eq, String.toList_append, String.toList_append, List.head?_append,
      List.head?_append]
    cases k <;> rfl
  have hletters : kind.before.toList.head? = other.before.toList.head? := by
    rw [← hhead kind entity, h, hhead]
  cases kind <;> cases other <;> first | rfl | exact absurd hletters (by decide)

/-- One entity has a class of its own for each kind. -/
theorem kind_of_className {kind other : ArtifactKind} {entity : String}
    (h : kind.className entity = other.className entity) : kind = other := by
  have hbefore : kind.before = other.before := before_eq h
  have hbehind : kind.behind = other.behind := by
    rw [className_eq, className_eq, hbefore] at h
    exact (String.append_right_inj _).mp h
  cases kind <;> cases other <;>
    first | rfl | exact absurd hbefore (by decide) | exact absurd hbehind (by decide)

/-- Kinds that start alike: the fakers, and the delete feature with its tests. -/
theorem alike_of_before {kind other : ArtifactKind} (hne : kind ≠ other)
    (h : kind.before = other.before) :
    (∀ e e', Folder.ofArtifact e kind = Folder.fakes e.name ∧
        Folder.ofArtifact e' other = Folder.fakes e'.name) ∨
      (kind = deleteFeature ∧ other = deleteCommandTest) ∨
      (kind = deleteCommandTest ∧ other = deleteFeature) := by
  cases kind <;> cases other <;> simp [before, Folder.ofArtifact] at h hne ⊢

end ArtifactKind

/-! ### Paths -/

namespace Layout

variable {l : Layout} {e e' : Entity} {kind kind' : ArtifactKind} {p p' : ClassPath}

/-- The components of a path from the file upwards. -/
theorem reverse_components (he : e.IsNamed) (suffix : String)
    (h : l.artifact e kind = .ok p)
    (hsuffix : (Folder.ofArtifact e kind).projectSuffix = some suffix) :
    (Path.components p.fullPath).reverse =
      .name (kind.fileName e.name) :: ((Folder.ofArtifact e kind).folders.reverse.map .name ++
        .name (Text.trim l.project ++ suffix) ::
          (Path.components ((Folder.ofArtifact e kind).root.path l)).reverse) := by
  rw [(isBelow_of_artifact he h hsuffix).full_path]
  simp

theorem className_eq_of_components_eq
    (he : e.IsNamed) (he' : e'.IsNamed)
    (h : l.artifact e kind = .ok p) (h' : l.artifact e' kind' = .ok p')
    (hpath : Path.components p.fullPath = Path.components p'.fullPath) :
    kind.className e.name = kind'.className e'.name := by
  obtain ⟨suffix, hsuffix⟩ := Folder.exists_projectSuffix e kind
  obtain ⟨suffix', hsuffix'⟩ := Folder.exists_projectSuffix e' kind'
  have hreverse := reverse_components he suffix h hsuffix
  rw [hpath, reverse_components he' suffix' h' hsuffix'] at hreverse
  have hfile := Path.Component.name.inj (List.cons.inj hreverse).1
  exact (String.append_left_inj ".cs").mp hfile.symm

/-- The fakers of two entities lie in two folders. -/
theorem name_eq_of_fakers
    (he : e.IsNamed) (he' : e'.IsNamed)
    (h : l.artifact e kind = .ok p) (h' : l.artifact e' kind' = .ok p')
    (hfolder : Folder.ofArtifact e kind = Folder.fakes e.name)
    (hfolder' : Folder.ofArtifact e' kind' = Folder.fakes e'.name)
    (hpath : Path.components p.fullPath = Path.components p'.fullPath) : e.name = e'.name := by
  have hreverse := reverse_components he ".SharedTestHelpers" h (by rw [hfolder]; rfl)
  rw [hpath, reverse_components he' ".SharedTestHelpers" h' (by rw [hfolder']; rfl), hfolder,
    hfolder'] at hreverse
  simp only [Folder.fakes, List.reverse_cons, List.reverse_nil, List.nil_append,
    List.map_cons, List.cons_append, List.cons.injEq,
    Path.Component.name.injEq] at hreverse
  exact hreverse.2.1.symm

/-- A delete feature is never where a delete test is. -/
theorem feature_ne_test
    (he : e.IsNamed) (he' : e'.IsNamed)
    (h : l.artifact e .deleteFeature = .ok p) (h' : l.artifact e' .deleteCommandTest = .ok p') :
    Path.components p.fullPath ≠ Path.components p'.fullPath := by
  intro hpath
  have hreverse := reverse_components he "" h rfl
  rw [hpath, reverse_components he' ".IntegrationTests" h' rfl] at hreverse
  have hproject : Text.trim l.project ++ ".IntegrationTests" = "Domain" := by
    simp only [Folder.ofArtifact, Folder.features, Folder.featureTests, List.reverse_cons,
      List.reverse_nil, List.nil_append, List.map_cons, List.map_nil, List.cons_append, List.cons.injEq,
      Path.Component.name.injEq] at hreverse
    exact hreverse.2.2.2.1
  have hdot : '.' ∈ (Text.trim l.project ++ ".IntegrationTests").toList := by
    rw [String.toList_append]
    exact List.mem_append_right _ (by decide)
  rw [hproject] at hdot
  exact absurd hdot (by decide)

/-- Two artifacts at one path are the same kind of entities of one name. -/
theorem name_and_kind_of_components_eq
    (he : e.IsNamed) (he' : e'.IsNamed)
    (h : l.artifact e kind = .ok p) (h' : l.artifact e' kind' = .ok p')
    (hpath : Path.components p.fullPath = Path.components p'.fullPath) :
    e.name = e'.name ∧ kind = kind' := by
  have hclass := className_eq_of_components_eq he he' h h' hpath
  have hkind : kind = kind' := by
    by_contra hkind
    rcases ArtifactKind.alike_of_before hkind (ArtifactKind.before_eq hclass) with
      hfakers | ⟨rfl, rfl⟩ | ⟨rfl, rfl⟩
    · rw [name_eq_of_fakers he he' h h' (hfakers e e').1 (hfakers e e').2 hpath] at hclass
      exact hkind (ArtifactKind.kind_of_className hclass)
    · exact feature_ne_test he he' h h' hpath
    · exact feature_ne_test he' he h' h hpath.symm
  subst hkind
  exact ⟨ArtifactKind.className_injective kind hclass, rfl⟩

end Layout

/-- **No two artifacts collide.** In one layout two artifacts that are not the same kind of the same
entity have different paths, whatever the roots and the plurals are and however one name extends
the other. -/
theorem artifact_paths_distinct (l : Layout) {d d' : Draft} {e e' : Entity}
    (build : d.build = .ok e) (build' : d'.build = .ok e') {kind kind' : ArtifactKind}
    {p p' : ClassPath} (resolved : l.artifact e kind = .ok p)
    (resolved' : l.artifact e' kind' = .ok p') (different : (e.name, kind) ≠ (e'.name, kind')) :
    Path.components p.fullPath ≠ Path.components p'.fullPath := by
  intro hpath
  obtain ⟨hname, hkind⟩ := Layout.name_and_kind_of_components_eq (Draft.isNamed_of_build build)
    (Draft.isNamed_of_build build') resolved resolved' hpath
  exact different (Prod.ext hname hkind)

/-- A layout whose roots coincide. -/
def Layout.oneRoot : Layout := { solution := "/sln", src := "/sln", test := "/sln", project := "Shop" }

/-- The test of `Order` and the feature of `OrderCommandTests` have one file name, and here the
folders around them have the same names, in one root. -/
theorem feature_beside_test :
    ∃ (e e' : Entity) (p p' : ClassPath),
      (Draft.bare "Order" "Features").build = .ok e ∧
      (Draft.bare "OrderCommandTests" "FeatureTests").build = .ok e' ∧
      Layout.oneRoot.artifact e .deleteCommandTest = .ok p ∧
      Layout.oneRoot.artifact e' .deleteFeature = .ok p' ∧
      ArtifactKind.deleteCommandTest.fileName e.name = ArtifactKind.deleteFeature.fileName e'.name ∧
      (e.name, ArtifactKind.deleteCommandTest) ≠ (e'.name, ArtifactKind.deleteFeature) ∧
      Path.components p.fullPath ≠ Path.components p'.fullPath := by
  obtain ⟨p, hp⟩ : ∃ p, (Draft.bare "Order" "Features").build >>=
      (Layout.oneRoot.artifact · .deleteCommandTest) = .ok p :=
    isSome_toOption_iff.mp (by decide +kernel)
  obtain ⟨p', hp'⟩ : ∃ p', (Draft.bare "OrderCommandTests" "FeatureTests").build >>=
      (Layout.oneRoot.artifact · .deleteFeature) = .ok p' :=
    isSome_toOption_iff.mp (by decide +kernel)
  obtain ⟨e, build, resolved⟩ := bind_eq_ok_iff.mp hp
  obtain ⟨e', build', resolved'⟩ := bind_eq_ok_iff.mp hp'
  have hname : e.name = "Order" := (Draft.describes_of_build build).name.trans (by decide +kernel)
  have hname' : e'.name = "OrderCommandTests" :=
    (Draft.describes_of_build build').name.trans (by decide +kernel)
  have hfile : ArtifactKind.deleteCommandTest.fileName e.name =
      ArtifactKind.deleteFeature.fileName e'.name := by
    rw [hname, hname']
    decide
  have hdifferent : (e.name, ArtifactKind.deleteCommandTest) ≠
      (e'.name, ArtifactKind.deleteFeature) := fun h => nomatch (Prod.mk.inj h).2
  exact ⟨e, e', p, p', build, build', resolved, resolved', hfile, hdifferent,
    artifact_paths_distinct Layout.oneRoot build build' resolved resolved' hdifferent⟩

end Scaffold
