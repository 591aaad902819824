/-
  Scaffold/Proofs/Render/PlainProperties.lean
  ===========================================
  **Plain properties do not show in generated files.**

  Of the properties of an entity, files name its key and its foreign keys. The key of a draft is
  found by its mark, not by its position, and relationships come from foreign keys alone, so any
  other property leaves the entity as it is but for the list it stands in (`Draft.build_insert`). The
  templates read that list through its foreign keys (`Layout.content_with_properties`).
-/
import Scaffold.Proofs.Entity.Building
import Scaffold.Proofs.Entity.Names
import Scaffold.Proofs.Layout.Places
import Scaffold.Render

namespace Scaffold

/-! ### Building -/

namespace Draft

variable {entity : String} {front back : List Property} {p : Property}

/-- Variables of seeded parents are told apart by the foreign keys that point at them. -/
theorem seedVariable_insert (hplain : p.parent = none) :
    seedVariable entity (front ++ p :: back) = seedVariable entity (front ++ back) := by
  funext property parent
  have hcount : (front ++ p :: back).filter (·.parent == some parent) =
      (front ++ back).filter (·.parent == some parent) := by
    simp [hplain]
  unfold seedVariable
  rw [hcount]

theorem relationships_insert (hplain : p.parent = none) :
    relationships entity (front ++ p :: back) = relationships entity (front ++ back) := by
  unfold relationships
  rw [seedVariable_insert hplain, List.filterMap_append, List.filterMap_append,
    List.filterMap_cons_none (by rw [hplain]; rfl)]

/-- **A property that is neither the key nor a foreign key is kept in the list of properties only.**
-/
theorem build_insert {d : Draft} {e e' : Entity} (hsplit : d.properties = front ++ back)
    (hkey : p.isKey = false) (hplain : p.parent = none) (build : d.build = .ok e)
    (build' : ({ d with properties := front ++ p :: back } : Draft).build = .ok e') :
    ∃ properties, e' = { e with properties } ∧
      properties.filter (·.isForeign) = e.properties.filter (·.isForeign) := by
  obtain ⟨-, key, hfound, rfl⟩ := build_eq_ok_iff.mp build
  obtain ⟨-, key', hfound', rfl⟩ := build_eq_ok_iff.mp build'
  have hplain' : p.normalised.parent = none := by
    rw [Property.normalised, hplain, Option.map_none]
  have hinserted : (front ++ p :: back).map Property.normalised =
      front.map Property.normalised ++ p.normalised :: back.map Property.normalised := by
    rw [List.map_append, List.map_cons]
  have hgiven : d.properties.map Property.normalised =
      front.map Property.normalised ++ back.map Property.normalised := by
    rw [hsplit, List.map_append]
  have hsame : key' = key := by
    have hnot : ¬p.normalised.isKey = true := by
      rw [Property.isKey_normalised, hkey]
      exact Bool.false_ne_true
    rw [hinserted, List.filter_append, List.filter_cons_of_neg hnot, ← List.filter_append,
      ← hgiven, hfound] at hfound'
    exact (List.singleton_inj.mp hfound').symm
  refine ⟨(front ++ p :: back).map Property.normalised, ?_, ?_⟩
  · have hrelationships : relationships (Name.pascal d.name)
        ((front ++ p :: back).map Property.normalised) =
          relationships (Name.pascal d.name) (d.properties.map Property.normalised) := by
      rw [hinserted, relationships_insert hplain', ← hgiven]
    have hplural : entityPlural { d with properties := front ++ p :: back } = d.entityPlural := rfl
    have hlambda : entityLambda { d with properties := front ++ p :: back } = d.entityLambda := rfl
    simp only [entityWith, hplural, hlambda, hsame, hrelationships]
  · have hnot : ¬p.normalised.isForeign = true := by
      rw [Property.isForeign, hplain']
      exact Bool.false_ne_true
    unfold entityWith
    rw [hinserted, hgiven, List.filter_append, List.filter_cons_of_neg hnot, ← List.filter_append]

end Draft

/-! ### Rendering -/

section WithProperties

variable (l : Layout) (e : Entity) (properties : List Property) (flags : Flags)

namespace Layout

theorem resolve_with_properties (folder : Folder) (file : String) :
    l.resolve { e with properties } folder file = l.resolve e folder file := resolve_of_name_eq rfl

theorem artifact_with_properties (kind : ArtifactKind) :
    l.artifact { e with properties } kind = l.artifact e kind := by
  have hfolder : Folder.ofArtifact { e with properties } kind = Folder.ofArtifact e kind := by
    cases kind <;> rfl
  rw [artifact, resolve_with_properties, hfolder]
  rfl

theorem namespaceOf_with_properties (folder : Folder) :
    l.namespaceOf { e with properties } folder = l.namespaceOf e folder := by
  rw [namespaceOf, resolve_with_properties]
  rfl

end Layout

theorem Seeds.imports_with_properties : imports l { e with properties } = imports l e := by
  simp only [imports, Layout.namespaceOf_with_properties]

theorem Handler.render_with_properties :
    render l { e with properties } flags = render l e flags := by
  have hlines : ∀ permission, lines { e with properties } permission = lines e permission :=
    fun _ => rfl
  have hservices : Folder.entityServices { e with properties } = Folder.entityServices e := rfl
  simp only [render, Layout.artifact_with_properties, Layout.namespaceOf_with_properties, hlines,
    hservices]

theorem DeleteSuite.render_with_properties :
    render l { e with properties } flags = render l e flags := by
  have hfragments : fragments { e with properties } flags = fragments e flags := rfl
  simp only [render, Layout.artifact_with_properties, Layout.namespaceOf_with_properties,
    Seeds.imports_with_properties, hfragments]

theorem UpdateSuite.render_with_properties :
    render l { e with properties } = render l e := by
  have hlines : ∀ className, lines { e with properties } className = lines e className :=
    fun _ => rfl
  have hclass : Folder.entityClass { e with properties } = Folder.entityClass e := rfl
  simp only [render, Layout.artifact_with_properties, Layout.namespaceOf_with_properties, hlines,
    hclass]

namespace Fakes

theorem renderEntity_with_properties :
    renderEntity l { e with properties } = renderEntity l e := by
  have hlines : entityLines { e with properties } = entityLines e := rfl
  have hclass : Folder.entityClass { e with properties } = Folder.entityClass e := rfl
  have hdtos : Folder.dtos { e with properties } = Folder.dtos e := rfl
  simp only [renderEntity, Layout.artifact_with_properties, Layout.namespaceOf_with_properties,
    hlines, hclass, hdtos]

variable {properties}

theorem renderDto_with_properties (shape : DtoShape)
    (h : properties.filter (·.isForeign) = e.properties.filter (·.isForeign)) :
    renderDto l { e with properties } shape = renderDto l e shape := by
  have hlines : ∀ className, dtoLines { e with properties } className = dtoLines e className := by
    intro className
    unfold dtoLines
    rw [h]
  have hdtos : Folder.dtos { e with properties } = Folder.dtos e := rfl
  simp only [renderDto, Layout.artifact_with_properties, Layout.namespaceOf_with_properties, hlines,
    hdtos]

end Fakes

namespace Layout

variable {properties}
  (h : properties.filter (·.isForeign) = e.properties.filter (·.isForeign))

include h

/-- **Only foreign keys are read from the list of properties.** -/
theorem content_with_properties (kind : ArtifactKind) :
    l.content { e with properties } flags kind = l.content e flags kind := by
  cases kind with
  | deleteFeature => exact Handler.render_with_properties l e properties flags
  | deleteCommandTest => exact DeleteSuite.render_with_properties l e properties flags
  | updateEntityTest => exact UpdateSuite.render_with_properties l e properties
  | entityFaker => exact Fakes.renderEntity_with_properties l e properties
  | creationDtoFaker => exact Fakes.renderDto_with_properties l e .creation h
  | updateDtoFaker => exact Fakes.renderDto_with_properties l e .update h

theorem render_with_properties (kind : ArtifactKind) :
    l.render { e with properties } flags kind = l.render e flags kind := by
  simp only [render, artifact_with_properties, content_with_properties l e flags h]

end Layout

end WithProperties

/-- **Plain properties do not show in generated files.** Two drafts are built that differ in one
property, wherever it stands in the list, and it is neither the key nor a foreign key. Then every
artifact has the same place and the same text, or the same refusal, for both, also when relationships
are pointed at the keys of the parents. -/
theorem plain_property_invisible (l : Layout) {d : Draft} {front back : List Property} {p : Property}
    (split : d.properties = front ++ back) (noKey : p.isKey = false) (plain : p.isForeign = false)
    {e e' : Entity} (build : d.build = .ok e)
    (build' : ({ d with properties := front ++ p :: back } : Draft).build = .ok e')
    (flags : Flags) (kind : ArtifactKind) :
    l.artifact e' kind = l.artifact e kind ∧
    l.content e' flags kind = l.content e flags kind ∧
    l.render e' flags kind = l.render e flags kind ∧
    ∀ key? : String → Option String,
      l.artifact (e'.withParentKeys key?) kind = l.artifact (e.withParentKeys key?) kind ∧
      l.content (e'.withParentKeys key?) flags kind = l.content (e.withParentKeys key?) flags kind ∧
      l.render (e'.withParentKeys key?) flags kind = l.render (e.withParentKeys key?) flags kind := by
  have hparent : p.parent = none := by
    simpa [Property.isForeign] using plain
  obtain ⟨properties, rfl, hforeign⟩ := Draft.build_insert split noKey hparent build build'
  refine ⟨l.artifact_with_properties e properties kind,
    l.content_with_properties e flags hforeign kind,
    l.render_with_properties e flags hforeign kind, ?_⟩
  intro key?
  exact ⟨l.artifact_with_properties (e.withParentKeys key?) properties kind,
    l.content_with_properties (e.withParentKeys key?) flags hforeign kind,
    l.render_with_properties (e.withParentKeys key?) flags hforeign kind⟩

/-- An amount behind the key of a transfer does not show in the tests of the transfer. -/
theorem transfer_amount_invisible :
    let l := Layout.conventional "/sln" "Shop"
    let amount : Property := { name := "Amount", type := .decimal }
    let properties := Draft.transfer.properties
    ∃ (e e' : Entity) (artifact : Rendered), Draft.transfer.build = .ok e ∧
      ({ Draft.transfer with properties := properties.take 1 ++ amount :: properties.drop 1 } :
        Draft).build = .ok e' ∧
      e'.properties.length = 6 ∧
      l.render e {} .deleteCommandTest = .ok artifact ∧
      l.render e' {} .deleteCommandTest = .ok artifact := by
  intro l amount properties
  obtain ⟨artifact, hartifact⟩ : ∃ artifact, Draft.transfer.build >>=
      (l.render · {} .deleteCommandTest) = .ok artifact :=
    isSome_toOption_iff.mp (by decide +kernel)
  obtain ⟨e, build, hrender⟩ := bind_eq_ok_iff.mp hartifact
  obtain ⟨e', build', hlength⟩ : ∃ e', ({ Draft.transfer with
      properties := properties.take 1 ++ amount :: properties.drop 1 } : Draft).build = .ok e' ∧
        e'.properties.length = 6 := exists_of_map_decide (by decide +kernel)
  have hsame := plain_property_invisible l (List.take_append_drop 1 properties).symm rfl rfl build
    build' {} .deleteCommandTest
  exact ⟨e, e', artifact, build, build', hlength, hrender, hsame.2.2.1.trans hrender⟩

end Scaffold
