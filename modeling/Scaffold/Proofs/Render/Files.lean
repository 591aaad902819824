/-
  Scaffold/Proofs/Render/Files.lean
  =================================
  **Every file agrees with the place it is written to.**

  The six templates fill one shell. Whatever the kind, the file opens with the namespace of its
  place, imports dotted names only, and declares one class, the class of its place
  (`Layout.file_around_members`). What a kind adds are the members (`Layout.members`).
-/
import Scaffold.Proofs.Layout.Places
import Scaffold.Proofs.Render.Nesting
import Scaffold.Proofs.Render.Seeds
import Scaffold.Proofs.Source.Imports

namespace Scaffold

/-! ### Declarations -/

namespace ArtifactKind

/-- What stands in front of the class of a kind. -/
def modifiers : ArtifactKind → String
  | deleteFeature => "public static "
  | deleteCommandTest | updateEntityTest | entityFaker => "public "
  | creationDtoFaker | updateDtoFaker => "public sealed "

/-- What stands behind it. -/
def bases : ArtifactKind → String → String
  | deleteFeature, _ | updateEntityTest, _ | entityFaker, _ => ""
  | deleteCommandTest, _ => " : TestBase"
  | creationDtoFaker, entity => " : AutoFaker<" ++ DtoShape.creation.className entity ++ ">"
  | updateDtoFaker, entity => " : AutoFaker<" ++ DtoShape.update.className entity ++ ">"

end ArtifactKind

/-- The file belongs at the place of the kind's class. -/
structure SourceFile.Fits (f : SourceFile) (kind : ArtifactKind) (entity : String)
    (p : ClassPath) : Prop where
  name_space : f.nameSpace = p.nameSpace
  declaration : f.declaration = kind.modifiers ++ "class " ++ p.className ++ kind.bases entity
  imports : ∀ name ∈ f.imports, Name.isDotted name = true

/-- A file whose imports are collected and whose body is set last. -/
theorem SourceFile.Fits.of_parts {nameSpace declaration body : String} {names : List String}
    {kind : ArtifactKind} {entity : String} {p : ClassPath} (hspace : nameSpace = p.nameSpace)
    (hdeclaration : declaration = kind.modifiers ++ "class " ++ p.className ++ kind.bases entity)
    (hnames : ∀ name ∈ names, Name.isDotted name = true) :
    ((({ nameSpace, declaration } : SourceFile).importingAll names).withBody body).Fits kind entity
      p := by
  rw [importingAll_eq]
  refine ⟨hspace, hdeclaration, ?_⟩
  intro name hname
  rcases mem_imports_importingAll.mp hname with hnone | ⟨hmem, -⟩
  · cases hnone
  · exact hnames name hmem

/-! ### The six kinds -/

namespace Layout

/-- The members that the template of a kind writes. -/
def members (e : Entity) (flags : Flags) (className : String) : ArtifactKind → String
  | .deleteFeature =>
    Source.members (Handler.lines e (flags.effectivePermission "Delete" e.plural))
  | .deleteCommandTest => (DeleteSuite.fragments e flags).assemble
  | .updateEntityTest => Source.members (UpdateSuite.lines e className)
  | .entityFaker => Source.members (Fakes.entityLines e)
  | .creationDtoFaker | .updateDtoFaker => Source.members (Fakes.dtoLines e className)

variable {l : Layout} {e : Entity} (he : e.IsNamed) {flags : Flags} {text : String} {p : ClassPath}

include he

theorem file_of_deleteFeature (hp : l.artifact e .deleteFeature = .ok p)
    (h : Handler.render l e flags = .ok text) :
    ∃ f : SourceFile, text = f.render ∧ f.Fits .deleteFeature e.name p ∧
      f.body = Source.members
        (Handler.lines e (flags.effectivePermission "Delete" e.plural)) := by
  unfold Handler.render at h
  obtain ⟨place, hplace, h⟩ := bind_eq_ok_iff.mp h
  obtain ⟨entityServices, hentity, h⟩ := bind_eq_ok_iff.mp h
  obtain ⟨services, hservices, h⟩ := bind_eq_ok_iff.mp h
  obtain ⟨exceptions, hexceptions, h⟩ := bind_eq_ok_iff.mp h
  obtain rfl : place = p := Except.ok.inj (hplace.symm.trans hp)
  cases h
  refine ⟨_, rfl, .of_parts rfl ?_ ?_, rfl⟩
  · have hfront : "public static class " = "public static " ++ "class " := rfl
    change _ = "public static " ++ "class " ++ place.className ++ ""
    rw [hfront, String.append_empty]
  · have hguard : ∀ name ∈ (if (flags.effectivePermission "Delete" e.plural).isSome then
        ["HeimGuard"] else []), Name.isDotted name = true := by
      split <;> decide
    simp only [List.forall_mem_append, List.forall_mem_cons, List.not_mem_nil, false_imp_iff,
      implies_true, and_true]
    refine ⟨⟨⟨?_, ?_, ?_⟩, hguard⟩, by decide⟩
    · exact isDotted_of_namespaceOf (Folder.isNamed_entityServices he.plural) hentity
    · exact isDotted_of_namespaceOf Folder.isNamed_services hservices
    · exact isDotted_of_namespaceOf Folder.isNamed_exceptions hexceptions

theorem file_of_deleteCommandTest (hp : l.artifact e .deleteCommandTest = .ok p)
    (h : DeleteSuite.render l e flags = .ok text) :
    ∃ f : SourceFile, text = f.render ∧ f.Fits .deleteCommandTest e.name p ∧
      f.body = (DeleteSuite.fragments e flags).assemble := by
  obtain ⟨place, fakes, feature, exceptions, parents, hplace, hfakes, hfeature, hexceptions,
    hparents, rfl⟩ := DeleteSuite.eq_of_render h
  obtain rfl : place = p := Except.ok.inj (hplace.symm.trans hp)
  refine ⟨_, rfl, .of_parts rfl ?_ ?_, rfl⟩
  · have hfront : "public class " = "public " ++ "class " := rfl
    rw [hfront]
    rfl
  · simp only [List.forall_mem_append, List.forall_mem_cons, List.not_mem_nil, false_imp_iff,
      implies_true, and_true]
    refine ⟨⟨?_, ?_, by decide, by decide, by decide, by decide, ?_, by decide, by decide⟩, ?_⟩
    · exact isDotted_of_namespaceOf (Folder.isNamed_fakes he.name) hfakes
    · exact isDotted_nameSpace (Folder.isNamed_features he.plural) hfeature
    · exact isDotted_of_namespaceOf Folder.isNamed_exceptions hexceptions
    · intro name hname
      obtain ⟨r, hr, -, hfolder⟩ := (Seeds.mem_imports_iff hparents).mp hname
      exact isDotted_of_namespaceOf (Folder.isNamed_fakes (he.relationships r hr).parent) hfolder

theorem file_of_updateEntityTest (hp : l.artifact e .updateEntityTest = .ok p)
    (h : UpdateSuite.render l e = .ok text) :
    ∃ f : SourceFile, text = f.render ∧ f.Fits .updateEntityTest e.name p ∧
      f.body = Source.members (UpdateSuite.lines e p.className) := by
  unfold UpdateSuite.render at h
  obtain ⟨place, hplace, h⟩ := bind_eq_ok_iff.mp h
  obtain ⟨fakes, hfakes, h⟩ := bind_eq_ok_iff.mp h
  obtain ⟨entityClass, hentity, h⟩ := bind_eq_ok_iff.mp h
  obtain rfl : place = p := Except.ok.inj (hplace.symm.trans hp)
  cases h
  refine ⟨_, rfl, .of_parts rfl ?_ ?_, rfl⟩
  · have hfront : "public class " = "public " ++ "class " := rfl
    change _ = "public " ++ "class " ++ place.className ++ ""
    rw [hfront, String.append_empty]
  · simp only [List.forall_mem_cons, List.not_mem_nil, false_imp_iff,
      implies_true, and_true]
    refine ⟨?_, ?_, by decide, by decide, by decide⟩
    · exact isDotted_of_namespaceOf (Folder.isNamed_fakes he.name) hfakes
    · exact isDotted_of_namespaceOf (Folder.isNamed_entityClass he.plural) hentity

theorem file_of_entityFaker (hp : l.artifact e .entityFaker = .ok p)
    (h : Fakes.renderEntity l e = .ok text) :
    ∃ f : SourceFile, text = f.render ∧ f.Fits .entityFaker e.name p ∧
      f.body = Source.members (Fakes.entityLines e) := by
  unfold Fakes.renderEntity at h
  obtain ⟨place, hplace, h⟩ := bind_eq_ok_iff.mp h
  obtain ⟨entityClass, hentity, h⟩ := bind_eq_ok_iff.mp h
  obtain ⟨dtos, hdtos, h⟩ := bind_eq_ok_iff.mp h
  obtain rfl : place = p := Except.ok.inj (hplace.symm.trans hp)
  cases h
  refine ⟨_, rfl, .of_parts rfl ?_ ?_, rfl⟩
  · have hfront : "public class " = "public " ++ "class " := rfl
    change _ = "public " ++ "class " ++ place.className ++ ""
    rw [hfront, String.append_empty]
  · simp only [List.forall_mem_cons, List.not_mem_nil, false_imp_iff,
      implies_true, and_true]
    constructor
    · exact isDotted_of_namespaceOf (Folder.isNamed_entityClass he.plural) hentity
    · exact isDotted_of_namespaceOf (Folder.isNamed_dtos he.plural) hdtos

theorem file_of_dtoFaker (shape : DtoShape) (hp : l.artifact e (Fakes.artifactOf shape) = .ok p)
    (h : Fakes.renderDto l e shape = .ok text) :
    ∃ f : SourceFile, text = f.render ∧ f.Fits (Fakes.artifactOf shape) e.name p ∧
      f.body = Source.members (Fakes.dtoLines e p.className) := by
  unfold Fakes.renderDto at h
  obtain ⟨place, hplace, h⟩ := bind_eq_ok_iff.mp h
  obtain ⟨dtos, hdtos, h⟩ := bind_eq_ok_iff.mp h
  obtain rfl : place = p := Except.ok.inj (hplace.symm.trans hp)
  cases h
  refine ⟨_, rfl, .of_parts rfl ?_ ?_, rfl⟩
  · have hfront : "public sealed class " = "public sealed " ++ "class " := rfl
    have hback : (Fakes.artifactOf shape).bases e.name =
        " : AutoFaker<" ++ shape.className e.name ++ ">" := by
      cases shape <;> rfl
    have hmodifiers : (Fakes.artifactOf shape).modifiers = "public sealed " := by
      cases shape <;> rfl
    rw [hback, hmodifiers, hfront]
    simp only [String.append_assoc]
  · simp only [List.forall_mem_cons, List.not_mem_nil, false_imp_iff,
      implies_true, and_true]
    exact ⟨by decide, isDotted_of_namespaceOf (Folder.isNamed_dtos he.plural) hdtos⟩

/-- **A rendered file fits the place of its artifact**, around the members of its kind. -/
theorem file_around_members {kind : ArtifactKind} (hp : l.artifact e kind = .ok p)
    (h : l.content e flags kind = .ok text) :
    ∃ f : SourceFile, text = f.render ∧ f.Fits kind e.name p ∧
      f.body = members e flags p.className kind := by
  cases kind with
  | deleteFeature => exact file_of_deleteFeature he hp h
  | deleteCommandTest => exact file_of_deleteCommandTest he hp h
  | updateEntityTest => exact file_of_updateEntityTest he hp h
  | entityFaker => exact file_of_entityFaker he hp h
  | creationDtoFaker => exact file_of_dtoFaker he .creation hp h
  | updateDtoFaker => exact file_of_dtoFaker he .update hp h

/-- The members are nested around the permission, where they name one. -/
theorem nestedAround_members (flags : Flags) {className : String}
    (hclass : Text.brackets className = []) (kind : ArtifactKind) :
    ∃ permission,
      (permission = "" ∨ flags.effectivePermission "Delete" e.plural = some permission) ∧
      Text.NestedAround (members e flags className kind) permission := by
  have hgiven : (flags.effectivePermission "Delete" e.plural).getD "" = "" ∨
      flags.effectivePermission "Delete" e.plural =
        some ((flags.effectivePermission "Delete" e.plural).getD "") := by
    cases flags.effectivePermission "Delete" e.plural with
    | none => exact .inl rfl
    | some name => exact .inr rfl
  have hnested : ∀ {lines : List String}, Source.Nested lines →
      Text.NestedAround (Source.members lines) "" := fun hlines =>
    .of_nested (by rwa [Source.brackets_members])
  cases kind with
  | deleteFeature => exact ⟨_, hgiven, Handler.nestedAround_lines he _⟩
  | deleteCommandTest => exact ⟨_, hgiven, DeleteSuite.nestedAround_assemble he flags⟩
  | updateEntityTest => exact ⟨"", .inl rfl, hnested (UpdateSuite.nested_lines he hclass)⟩
  | entityFaker => exact ⟨"", .inl rfl, hnested (Fakes.nested_entityLines he)⟩
  | creationDtoFaker => exact ⟨"", .inl rfl, hnested (Fakes.nested_dtoLines he hclass)⟩
  | updateDtoFaker => exact ⟨"", .inl rfl, hnested (Fakes.nested_dtoLines he hclass)⟩

/-- **A rendered file fits the place of its artifact**, and its members are nested around the
permission, where they name one. -/
theorem file_of_content {kind : ArtifactKind} (hp : l.artifact e kind = .ok p)
    (h : l.content e flags kind = .ok text) :
    ∃ (f : SourceFile) (permission : String), text = f.render ∧ f.Fits kind e.name p ∧
      (permission = "" ∨ flags.effectivePermission "Delete" e.plural = some permission) ∧
      Text.NestedAround f.body permission := by
  have hclass : Text.brackets p.className = [] :=
    Name.brackets_of_isIdentifier (isIdentifier_of_artifact he hp)
  obtain ⟨f, htext, hfits, hbody⟩ := file_around_members he hp h
  obtain ⟨permission, hgiven, hmembers⟩ := nestedAround_members he flags hclass kind
  refine ⟨f, permission, htext, hfits, hgiven, ?_⟩
  rwa [hbody]

end Layout

/-! ### What a file shows -/

theorem SourceFile.brackets_importLines {imports : List String}
    (h : ∀ name ∈ imports, Name.isDotted name = true) :
    Text.brackets (importLines imports) = [] := by
  unfold importLines Text.endLines
  split
  · rfl
  · rw [Text.brackets_append, Text.brackets_join, List.map_map, List.flatMap_map]
    refine List.append_eq_nil_iff.mpr ⟨List.flatMap_eq_nil_iff.mpr ?_, rfl⟩
    intro name hname
    simp only [Function.comp_apply, Text.brackets_append, Name.brackets_of_isDotted (h name hname)]
    rfl

theorem SourceFile.Fits.brackets_front {f : SourceFile} {kind : ArtifactKind} {entity : String}
    {p : ClassPath} (h : f.Fits kind entity p) (hspace : Name.isDotted p.nameSpace = true)
    (hclass : Name.isIdentifier p.className = true) (hentity : Name.isIdentifier entity = true) :
    Text.brackets f.front = [] := by
  have hmodifiers : Text.brackets kind.modifiers = [] := by
    cases kind <;> rfl
  have hbases : Text.brackets (kind.bases entity) = [] := by
    have hdto : ∀ shape : DtoShape,
        Text.brackets (" : AutoFaker<" ++ shape.className entity ++ ">") = [] := by
      intro shape
      rw [Text.brackets_append, Text.brackets_append, Name.brackets_dto,
        Name.brackets_of_isIdentifier hentity]
      rfl
    have htest : Text.brackets " : TestBase" = [] := rfl
    cases kind with
    | deleteFeature => rfl
    | deleteCommandTest => exact htest
    | updateEntityTest => rfl
    | entityFaker => rfl
    | creationDtoFaker => exact hdto .creation
    | updateDtoFaker => exact hdto .update
  unfold front
  simp only [h.name_space, h.declaration, Text.brackets_append, Name.brackets_of_isDotted hspace,
    brackets_importLines h.imports, hmodifiers, Name.brackets_of_isIdentifier hclass, hbases]
  rfl

/-- **Path, namespace, class and text agree.** The path of an artifact lies below the root of its
kind, one plain component for each folder and one for the file; its namespace is those folders with
dots between them, its class is the file without the ending. The text opens with that namespace and
declares that class, and nothing else of what is written for the artifact stands outside of the
braces. One word is taken over as it was given, the name of a permission; when its own brackets are
paired it does not show either, and the class is the one declaration of the text. -/
theorem artifact_agrees (l : Layout) {d : Draft} {e : Entity} (build : d.build = .ok e)
    {kind : ArtifactKind} {p : ClassPath} (resolved : l.artifact e kind = .ok p) :
    ∃ suffix segments, (Folder.ofArtifact e kind).projectSuffix = some suffix ∧
      segments = (Text.trim l.project ++ suffix) :: (Folder.ofArtifact e kind).folders ∧
      p.IsBelow ((Folder.ofArtifact e kind).root.path l) segments (kind.fileName e.name) ∧
      p.className ++ ".cs" = kind.fileName e.name ∧
      p.nameSpace = Text.joinWith "." segments ∧ Name.isDotted p.nameSpace = true ∧
      ∀ flags text, l.content e flags kind = .ok text →
        ∃ front imports before permission after,
          front = "namespace " ++ p.nameSpace ++ ";\n\n" ++ SourceFile.importLines imports ++
            (kind.modifiers ++ "class " ++ p.className ++ kind.bases e.name) ++ "\n" ∧
          (∀ name ∈ imports, Name.isDotted name = true) ∧
          (permission = "" ∨ flags.effectivePermission "Delete" e.plural = some permission) ∧
          text = front ++ "\x7b" ++ (before ++ permission ++ after) ++ "\x7d\n" ∧
          Source.outline (front ++ "\x7b" ++ (before ++ after) ++ "\x7d\n") =
            front ++ "\x7b\x7d\n" ∧
          (Bracket.Nested (Text.brackets permission) →
            Source.outline text = front ++ "\x7b\x7d\n") := by
  have he : e.IsNamed := Draft.isNamed_of_build build
  obtain ⟨suffix, hsuffix⟩ := Folder.exists_projectSuffix e kind
  have hbelow := Layout.isBelow_of_artifact he resolved hsuffix
  have hclass : p.className = kind.className e.name := Layout.className_of_artifact resolved
  have hspace : Name.isDotted p.nameSpace = true :=
    Layout.isDotted_nameSpace (Folder.isNamed_ofArtifact he kind) resolved
  refine ⟨suffix, _, hsuffix, rfl, hbelow, ?_, ?_, hspace, ?_⟩
  · rw [hclass]
    rfl
  · rw [ClassPath.nameSpace, hbelow.segments_eq]
  · intro flags text hcontent
    obtain ⟨f, permission, rfl, hfits, hgiven, hbody⟩ := Layout.file_of_content he resolved hcontent
    have hidentifier : Name.isIdentifier p.className = true := by
      rw [hclass]
      exact ArtifactKind.isIdentifier_className he.name kind
    have hfront := hfits.brackets_front hspace hidentifier he.name
    have hmembers := SourceFile.nestedAround_memberLines hbody
    have hwhole : Bracket.Nested (Text.brackets permission) →
        Source.outline f.render = f.front ++ "\x7b\x7d\n" := by
      intro hpermission
      rw [f.render_eq]
      exact Source.outline_braces hfront (hmembers.nested hpermission)
    obtain ⟨before, after, hsplit, hrest⟩ := hmembers
    refine ⟨f.front, f.imports, before, permission, after, ?_, hfits.imports, hgiven, ?_,
      Source.outline_braces hfront hrest, hwhole⟩
    · unfold SourceFile.front
      rw [hfits.name_space, hfits.declaration]
    · rw [f.render_eq, hsplit]

/-- The tests of a protected order: their text opens with the namespace of the folder that they are
written to, and shows one class, that of the file. -/
theorem order_tests_agree :
    let l := Layout.conventional "/sln" "Shop"
    let flags : Flags := { isProtected := true, permission := some "CanDeleteOrders" }
    ∃ (e : Entity) (p : ClassPath) (text : String), (Draft.bare "Order" "Orders").build = .ok e ∧
      l.artifact e .deleteCommandTest = .ok p ∧ l.content e flags .deleteCommandTest = .ok text ∧
      flags.effectivePermission "Delete" e.plural = some "CanDeleteOrders" ∧
      Path.parent? p.fullPath = some p.directory ∧
      ∃ imports members, text = "namespace " ++ p.nameSpace ++ ";" ++ imports ++
          ("public class " ++ p.className ++ " : TestBase\n") ++ "\x7b" ++ members ∧
        Source.outline text = "namespace " ++ p.nameSpace ++ ";" ++ imports ++
          ("public class " ++ p.className ++ " : TestBase\n") ++ "\x7b\x7d\n" := by
  intro l flags
  obtain ⟨artifact, hartifact⟩ : ∃ artifact, (Draft.bare "Order" "Orders").build >>=
      (l.render · flags .deleteCommandTest) = .ok artifact :=
    isSome_toOption_iff.mp (by decide +kernel)
  obtain ⟨e, build, hrender⟩ := bind_eq_ok_iff.mp hartifact
  have hcontent := Layout.content_of_render hrender
  unfold Layout.render at hrender
  obtain ⟨p, resolved, -⟩ := bind_eq_ok_iff.mp hrender
  obtain ⟨suffix, segments, -, -, hbelow, -, -, -, hfile⟩ := artifact_agrees _ build resolved
  obtain ⟨front, imports, before, permission, after, hfront, -, hgiven, htext, -, houtline⟩ :=
    hfile flags _ hcontent
  have hdemanded : flags.effectivePermission "Delete" e.plural = some "CanDeleteOrders" := rfl
  have hnested : Bracket.Nested (Text.brackets permission) := by
    rcases hgiven with rfl | hgiven
    · exact Bracket.Nested.nil
    · rw [← Option.some.inj (hdemanded.symm.trans hgiven)]
      decide
  have hopen : ";\n\n" = ";" ++ "\n\n" := rfl
  have hclass : (ArtifactKind.deleteCommandTest.modifiers ++ "class " ++ p.className ++
      ArtifactKind.deleteCommandTest.bases e.name) ++ "\n" =
      "public class " ++ p.className ++ " : TestBase\n" := by
    have hbase : " : TestBase\n" = " : TestBase" ++ "\n" := rfl
    have hpublic : "public class " = "public " ++ "class " := rfl
    rw [hbase, hpublic]
    simp only [String.append_assoc]
    rfl
  rw [String.append_assoc, hclass, hopen] at hfront
  refine ⟨e, p, artifact.content, build, resolved, hcontent, hdemanded, hbelow.parent,
    "\n\n" ++ SourceFile.importLines imports, (before ++ permission ++ after) ++ "\x7d\n", ?_, ?_⟩
  · rw [htext, hfront]
    simp only [String.append_assoc]
  · rw [houtline hnested, hfront]
    simp only [String.append_assoc]

/-- A permission with brackets of its own ends the class of the feature and declares a second one
behind it: two pairs of braces stand outside of all others. -/
theorem permission_declares_second_class :
    let l := Layout.conventional "/sln" "Shop"
    let permission :=
      "X); \x7d \x7d \x7d public class Evil \x7b class A \x7b void B() \x7b C(Permissions.Y"
    let flags : Flags := { isProtected := true, permission := some permission }
    ∃ (e : Entity) (p : ClassPath) (text : String), (Draft.bare "Order" "Orders").build = .ok e ∧
      l.artifact e .deleteFeature = .ok p ∧ l.content e flags .deleteFeature = .ok text ∧
      Text.Contains text permission ∧
      Text.brackets (Source.outline text) = ['\x7b', '\x7d', '\x7b', '\x7d'] ∧
      ∀ front, Text.brackets front = [] → Source.outline text ≠ front ++ "\x7b\x7d\n" := by
  intro l permission flags
  obtain ⟨e, build, hplace, hcontent⟩ : ∃ e, (Draft.bare "Order" "Orders").build = .ok e ∧
      (l.artifact e .deleteFeature).toOption.isSome = true ∧
      (l.content e flags .deleteFeature).toOption.isSome = true :=
    exists_of_map_decide (by decide +kernel)
  obtain ⟨p, resolved⟩ := isSome_toOption_iff.mp hplace
  obtain ⟨text, rendered⟩ := isSome_toOption_iff.mp hcontent
  have he : e.IsNamed := Draft.isNamed_of_build build
  have hdemanded : flags.effectivePermission "Delete" e.plural = some permission := by
    have hnamed : (some permission).bind Text.nonBlank? = some permission := by decide +kernel
    rw [Flags.effectivePermission, if_pos rfl, hnamed]
    rfl
  obtain ⟨f, hfile, hfits, hbody⟩ := Layout.file_of_deleteFeature he resolved rendered
  rw [hdemanded] at hbody
  have hbrackets : Text.brackets (Source.outline text) = ['\x7b', '\x7d', '\x7b', '\x7d'] := by
    -- the outline keeps the brackets at depth zero, so those of each part decide, not the text
    have hfront : Text.brackets f.front = [] := hfits.brackets_front
      (Layout.isDotted_nameSpace (Folder.isNamed_ofArtifact he _) resolved)
      (Layout.isIdentifier_of_artifact he resolved) he.name
    have hopen : Text.brackets "\x7b" = ['\x7b'] := rfl
    have hclose : Text.brackets "\x7d\n" = ['\x7d'] := rfl
    have hgiven : Text.brackets permission = [')', '\x7d', '\x7d', '\x7d', '\x7b', '\x7b', '(', ')',
        '\x7b', '('] := by
      rw [Text.brackets_ofList]
      decide
    rw [Source.brackets_outline, hfile, f.render_eq, Text.brackets_append, Text.brackets_append,
      Text.brackets_append, hfront, f.brackets_memberLines, hbody, Source.brackets_members,
      Handler.brackets_lines he, Handler.brackets_guardLines, hgiven, hopen, hclose]
    decide
  refine ⟨e, p, text, build, resolved, rendered, ?_, hbrackets, ?_⟩
  · obtain ⟨before, after, hmembers, -⟩ := Handler.nestedAround_lines he (some permission)
    rw [hfile]
    refine f.contains_body.trans ⟨before, after, ?_⟩
    rw [hbody]
    exact hmembers
  · intro front hfront hone
    rw [hone, Text.brackets_append, hfront] at hbrackets
    cases hbrackets

end Scaffold
