/-
  Scaffold/Proofs/Render/Imports.lean
  ===================================
  **The tests import whatever they name.**

  The tests of the delete command name classes of other files: the feature they send, the entity's
  fakers, and the fakers of every parent that they seed. All these files are generated from other
  entities or at other times; they agree on names because folders and classes depend on names only.
-/
import Scaffold.Proofs.Layout.Places
import Scaffold.Proofs.Render.Delete
import Scaffold.Proofs.Render.Seeds
import Scaffold.Proofs.Source.Brackets
import Scaffold.Proofs.Source.Imports
import Scaffold.Proofs.Source.Lines

namespace Scaffold

/-! ### Namespaces of fakers -/

namespace Layout

variable {l : Layout} {e : Entity} {folder : Folder} {file : String} {p : ClassPath}

/-- A layout that has a folder for the fakers of one entity has one for every entity. -/
theorem exists_namespaceOf_fakes {name nameSpace : String} (other : String)
    (h : l.namespaceOf e (.fakes name) = .ok nameSpace) :
    ∃ nameSpace, l.namespaceOf e (.fakes other) = .ok nameSpace := by
  obtain ⟨p, hp, -⟩ := namespaceOf_eq_ok_iff.mp h
  obtain ⟨hroot, hfile, segments, hsegments, -⟩ := resolve_eq_ok_iff.mp hp
  have hproject := ((segments_eq_ok_iff rfl).mp hsegments).1
  have hother : l.segments (.fakes other) =
      .ok [Text.trim l.project ++ ".SharedTestHelpers", "Fakes", other] :=
    (segments_eq_ok_iff rfl).mpr ⟨hproject, rfl⟩
  obtain ⟨q, hq⟩ : ∃ q, l.resolve e (.fakes other) "" = .ok q :=
    ⟨_, resolve_eq_ok_iff.mpr ⟨hroot, hfile, _, hother, rfl⟩⟩
  exact ⟨_, namespaceOf_eq_ok_iff.mpr ⟨q, hq, rfl⟩⟩

/-- The namespace of a folder inside a project is not empty, and so it is never left out. -/
theorem nameSpace_ne_empty {suffix : String} (h : l.resolve e folder file = .ok p)
    (hsuffix : folder.projectSuffix = some suffix) (hfolders : folder.folders ≠ []) :
    p.nameSpace ≠ "" := by
  obtain ⟨-, -, segments, hsegments, rfl⟩ := resolve_eq_ok_iff.mp h
  obtain ⟨-, rfl⟩ := (segments_eq_ok_iff hsuffix).mp hsegments
  obtain ⟨first, rest, hrest⟩ := List.exists_cons_of_ne_nil hfolders
  unfold ClassPath.nameSpace ClassPath.ofSegments
  rw [hrest]
  intro hempty
  have hdot := (String.append_eq_empty_iff.mp (String.append_eq_empty_iff.mp hempty).1).2
  exact absurd hdot (by decide)

/-- The fakers of an entity have the namespace of its folder, whoever asks for that. -/
theorem exists_faker {other : Entity} {name : String} (kind : ArtifactKind)
    (h : l.namespaceOf e (.fakes other.name) = .ok name)
    (hfolder : Folder.ofArtifact other kind = .fakes other.name)
    (hname : ∀ c ∈ other.name.toList, c ≠ '/' ∧ c ≠ '\\') :
    ∃ p, l.artifact other kind = .ok p ∧ p.nameSpace = name := by
  have hfile : ∀ c ∈ (kind.fileName other.name).toList, c ≠ '/' ∧ c ≠ '\\' :=
    (ArtifactKind.forall_mem_fileName_iff Name.not_separator_of_isPart (by decide) kind _).mpr hname
  unfold Layout.artifact
  rw [hfolder]
  exact resolve_of_namespaceOf other h hfile

theorem namespaceOf_fakes_ne_empty {name nameSpace : String}
    (h : l.namespaceOf e (.fakes name) = .ok nameSpace) : nameSpace ≠ "" := by
  obtain ⟨p, hp, rfl⟩ := namespaceOf_eq_ok_iff.mp h
  exact nameSpace_ne_empty hp rfl (List.cons_ne_nil _ _)

end Layout

/-! ### Seeding -/

namespace Seeds

theorem statements_eq (e : Entity) :
    (Seeds.of e).statements = String.join (e.relationships.map statementPair) := by
  unfold Seeds.of Entity.hasParents
  cases hparents : e.relationships with
  | nil => rfl
  | cons r rest => rfl

/-- Every parent's namespace is among the entity's own and those that the parents bring. -/
theorem exists_namespaceOf_parent {l : Layout} {e : Entity} {fakes : String} {parents : List String}
    (hfakes : l.namespaceOf e (.fakes e.name) = .ok fakes)
    (hparents : imports l e = .ok parents) {r : Relationship} (hr : r ∈ e.relationships) :
    ∃ name, l.namespaceOf e (.fakes r.parent) = .ok name ∧ name ∈ fakes :: parents := by
  by_cases hself : r.parent = e.name
  · rw [hself]
    exact ⟨fakes, hfakes, List.mem_cons_self⟩
  · obtain ⟨name, hname⟩ := Layout.exists_namespaceOf_fakes r.parent hfakes
    exact ⟨name, hname, .tail _ ((mem_imports_iff hparents).mpr ⟨r, hr, hself, hname⟩)⟩

/-- The statements for a parent name the fakers of whichever entity is built under its name. -/
theorem statementPair_eq {l : Layout} {parent : Entity} {r : Relationship}
    (hname : parent.name = r.parent) {faker dtoFaker : ClassPath}
    (hfaker : l.artifact parent .entityFaker = .ok faker)
    (hdto : l.artifact parent .creationDtoFaker = .ok dtoFaker) :
    statementPair r = "var " ++ r.seedVariable ++ " = " ++ faker.className ++ ".Generate(new " ++
      dtoFaker.className ++ "().Generate());" ++ bodyBreak ++
      "await testingServiceScope.InsertAsync(" ++ r.seedVariable ++ ");" ++ bodyBreak ++
      bodyBreak := by
  have hfakerClass : faker.className = Name.faker r.parent := by
    rw [Layout.className_of_artifact hfaker, hname]
    rfl
  have hdtoClass : dtoFaker.className = Name.faker (DtoShape.creation.className r.parent) := by
    rw [Layout.className_of_artifact hdto, hname]
    rfl
  have hscope : Text.lowerFirst Name.testingServiceScope = "testingServiceScope" := by decide
  have hinsert : "await testingServiceScope.InsertAsync(" =
      "await " ++ "testingServiceScope" ++ ".InsertAsync(" := rfl
  unfold statementPair
  rw [hscope, hfakerClass, hdtoClass, hinsert]
  simp only [String.append_assoc]

end Seeds

namespace DeleteSuite

/-- The tests that insert a row before they send the command. -/
def seededTests (e : Entity) (flags : Flags) : List (List String) :=
  happyPath e :: if flags.softDelete then [softDelete e] else []

theorem contains_seededTest {l : Layout} {e : Entity} {flags : Flags} {text : String}
    (h : render l e flags = .ok text) {test : List String} (htest : test ∈ seededTests e flags) :
    Text.Contains text (Source.members test) := by
  refine contains_test h ?_
  rcases List.mem_cons.mp htest with rfl | hsoft
  · exact List.mem_cons_self
  · exact .tail _ (List.mem_append_left _ (List.mem_append_right _ hsoft))

/-- The file with its imports; the namespaces that are looked up are among them. -/
theorem imports_of_render {l : Layout} {e : Entity} {flags : Flags} {text : String}
    (h : render l e flags = .ok text) :
    ∃ place fakes feature parents imports members,
      l.artifact e .deleteCommandTest = .ok place ∧ l.namespaceOf e (.fakes e.name) = .ok fakes ∧
      l.artifact e .deleteFeature = .ok feature ∧ Seeds.imports l e = .ok parents ∧
      text = "namespace " ++ place.nameSpace ++ ";\n\n" ++ SourceFile.importLines imports ++
        ("public class " ++ place.className ++ " : TestBase") ++ "\n" ++ "\x7b" ++ members ++
          "\x7d\n" ∧
      imports.Nodup ∧
      ∀ name ∈ fakes :: feature.nameSpace :: parents, name ≠ "" → name ∈ imports := by
  obtain ⟨place, fakes, feature, exceptions, parents, hplace, hfakes, hfeature, -, hparents, htext⟩ :=
    eq_of_render h
  rw [SourceFile.importingAll_eq, SourceFile.render_eq] at htext
  refine ⟨place, fakes, feature, parents, _, _, hplace, hfakes, hfeature, hparents, htext, ?_, ?_⟩
  · exact SourceFile.nodup_importingAll List.nodup_nil _
  · intro name hname hne
    refine SourceFile.mem_imports_importingAll.mpr (.inr ⟨?_, hne⟩)
    rcases List.mem_cons.mp hname with rfl | hname
    · exact List.mem_cons_self
    rcases List.mem_cons.mp hname with rfl | hname
    · exact .tail _ List.mem_cons_self
    · exact List.mem_append_right _ hname

/-- The parents are made first, in the order of the relationships, then the entity itself. -/
theorem contains_seeding {e : Entity} {flags : Flags} {test : List String}
    (htest : test ∈ seededTests e flags) :
    Text.Contains (Source.members test) (String.join (e.relationships.map Seeds.statementPair) ++
      "var " ++ Name.fakeVariable e.name ++ " = " ++ Name.faker e.name ++ ".Generate(new " ++
        Name.faker (DtoShape.creation.className e.name) ++ "()") := by
  have hholds : Source.Holds (arrangeSeeded e)
      (String.join (e.relationships.map Seeds.statementPair) ++ "var " ++
        Name.fakeVariable e.name ++ " = " ++ Name.faker e.name ++ ".Generate(new " ++
        Name.faker (DtoShape.creation.className e.name) ++ "()") := by
    refine ⟨_, List.mem_cons_of_mem _ (List.mem_cons_of_mem _ List.mem_cons_self), "",
      (Seeds.of e).clauses ++ ".Generate());", ?_⟩
    rw [← Seeds.statements_eq]
    simp only [String.append_assoc, String.empty_append]
  rcases List.mem_cons.mp htest with rfl | hsoft
  · exact (holds_happyPath hholds).members
  · split at hsoft
    · rw [List.mem_singleton.mp hsoft]
      exact (holds_softDelete hholds).members
    · cases hsoft

end DeleteSuite

/-! ### Sufficiency -/

/-- Behind a line feed, each import has a line of its own. -/
theorem SourceFile.contains_import {imports : List String} {name : String} (h : name ∈ imports) :
    Text.Contains ("\n" ++ importLines imports) ("\nusing " ++ name ++ ";\n") := by
  have hne : imports.isEmpty = false := List.isEmpty_eq_false_iff.mpr (List.ne_nil_of_mem h)
  have hline : "\nusing " ++ name ++ ";\n" = "\n" ++ ("using " ++ name ++ ";") ++ "\n" := by
    have hfront : "\nusing " = "\n" ++ "using " := rfl
    have hback : ";\n" = ";" ++ "\n" := rfl
    rw [hfront, hback]
    simp only [String.append_assoc]
  rw [importLines, hne, if_neg Bool.false_ne_true, hline, ← String.append_assoc]
  exact (Source.contains_line (List.mem_map_of_mem h)).append_right "\n"

/-- **The tests of the delete command import whatever they name.** Each namespace is imported once,
in a line of its own; those of the feature and of the entity's own fakers are among them, and for
every parent, whichever entity is built under its name, those of its fakers, whose classes the
seeding statements use. -/
theorem delete_tests_import_fakers (l : Layout) (e : Entity) (flags : Flags) {text : String}
    (rendered : l.content e flags .deleteCommandTest = .ok text) :
    ∃ place feature faker dtoFaker updateFaker imports members,
      l.artifact e .deleteCommandTest = .ok place ∧ l.artifact e .deleteFeature = .ok feature ∧
      l.artifact e .entityFaker = .ok faker ∧ l.artifact e .creationDtoFaker = .ok dtoFaker ∧
      l.artifact e .updateDtoFaker = .ok updateFaker ∧
      text = "namespace " ++ place.nameSpace ++ ";\n\n" ++ SourceFile.importLines imports ++
        ("public class " ++ place.className ++ " : TestBase") ++ "\n" ++ "\x7b" ++ members ++
          "\x7d\n" ∧
      imports.Nodup ∧
      (∀ name ∈ imports, Text.Contains text ("\nusing " ++ name ++ ";\n")) ∧
      (∀ own ∈ [feature, faker, dtoFaker, updateFaker], own.nameSpace ∈ imports) ∧
      (∀ test ∈ DeleteSuite.seededTests e flags, Text.Contains text (Source.members test) ∧
        Text.Contains (Source.members test)
          (String.join (e.relationships.map Seeds.statementPair) ++ "var " ++
            Name.fakeVariable e.name ++ " = " ++ faker.className ++ ".Generate(new " ++
            dtoFaker.className ++ "()")) ∧
      ∀ r ∈ e.relationships, ∀ (d : Draft) (parent : Entity), d.build = .ok parent →
        parent.name = r.parent → ∃ parentFaker parentDtoFaker,
          l.artifact parent .entityFaker = .ok parentFaker ∧
          l.artifact parent .creationDtoFaker = .ok parentDtoFaker ∧
          parentFaker.nameSpace ∈ imports ∧ parentDtoFaker.nameSpace ∈ imports ∧
          Seeds.statementPair r = "var " ++ r.seedVariable ++ " = " ++ parentFaker.className ++
            ".Generate(new " ++ parentDtoFaker.className ++ "().Generate());" ++ Seeds.bodyBreak ++
            "await testingServiceScope.InsertAsync(" ++ r.seedVariable ++ ");" ++
            Seeds.bodyBreak ++ Seeds.bodyBreak := by
  obtain ⟨place, fakes, feature, parents, imports, members, hplace, hfakes, hfeature, hparents,
    htext, hnodup, himports⟩ := DeleteSuite.imports_of_render rendered
  have hname : ∀ c ∈ e.name.toList, c ≠ '/' ∧ c ≠ '\\' := by
    obtain ⟨-, hfree, -⟩ := Layout.resolve_eq_ok_iff.mp hplace
    exact (ArtifactKind.forall_mem_fileName_iff Name.not_separator_of_isPart (by decide) _ _).mp
      hfree
  obtain ⟨faker, hfaker, hfakerSpace⟩ := Layout.exists_faker .entityFaker hfakes rfl hname
  obtain ⟨dtoFaker, hdto, hdtoSpace⟩ := Layout.exists_faker .creationDtoFaker hfakes rfl hname
  obtain ⟨updateFaker, hupdate, hupdateSpace⟩ :=
    Layout.exists_faker .updateDtoFaker hfakes rfl hname
  refine ⟨place, feature, faker, dtoFaker, updateFaker, imports, members, hplace, hfeature, hfaker,
    hdto, hupdate, htext, hnodup, ?_, ?_, ?_, ?_⟩
  · intro name hmem
    have hopen : ";\n\n" = ";\n" ++ "\n" := rfl
    have himport := (((SourceFile.contains_import hmem).append_left
      ("namespace " ++ place.nameSpace ++ ";\n")).append_right
      ("public class " ++ place.className ++ " : TestBase\n\x7b" ++ members ++ "\x7d\n"))
    rw [htext, hopen]
    simp only [String.append_assoc] at himport ⊢
    exact himport
  · have hfakesIn : fakes ∈ imports :=
      himports fakes List.mem_cons_self (Layout.namespaceOf_fakes_ne_empty hfakes)
    have hfeatureIn : feature.nameSpace ∈ imports :=
      himports _ (.tail _ List.mem_cons_self)
        (Layout.nameSpace_ne_empty hfeature rfl (List.cons_ne_nil _ _))
    simp only [List.forall_mem_cons, List.not_mem_nil, false_imp_iff, implies_true, and_true,
      hfakerSpace, hdtoSpace, hupdateSpace]
    exact ⟨hfeatureIn, hfakesIn, hfakesIn, hfakesIn⟩
  · intro test htest
    refine ⟨DeleteSuite.contains_seededTest rendered htest, ?_⟩
    rw [Layout.className_of_artifact hfaker, Layout.className_of_artifact hdto]
    exact DeleteSuite.contains_seeding htest
  · intro r hr d parent build hparent
    have hidentifier : Name.isIdentifier parent.name = true := (Draft.isNamed_of_build build).name
    have hplain : ∀ c ∈ parent.name.toList, c ≠ '/' ∧ c ≠ '\\' := fun c hc =>
      Name.not_separator_of_isPart c (Name.isPart_of_mem hidentifier c hc)
    obtain ⟨name, hspace, hmem⟩ := Seeds.exists_namespaceOf_parent hfakes hparents hr
    rw [← hparent] at hspace
    obtain ⟨p, hp, hpSpace⟩ := Layout.exists_faker .entityFaker hspace rfl hplain
    obtain ⟨q, hq, hqSpace⟩ := Layout.exists_faker .creationDtoFaker hspace rfl hplain
    have himported : name ∈ imports := by
      refine himports name ?_ (Layout.namespaceOf_fakes_ne_empty hspace)
      rcases List.mem_cons.mp hmem with rfl | hmem
      · exact List.mem_cons_self
      · exact .tail _ (.tail _ hmem)
    exact ⟨p, q, hp, hq, hpSpace ▸ himported, hqSpace ▸ himported,
      Seeds.statementPair_eq hparent hp hq⟩

/-- A transfer has two accounts as parents, and their fakers are imported once. -/
theorem transfer_tests_import_accounts :
    ∃ (e account : Entity) (text : String) (r : Relationship) (faker : ClassPath)
      (imports : List String), Draft.transfer.build = .ok e ∧
      (Draft.bare "Account" "Accounts").build = .ok account ∧
      (Layout.conventional "/sln" "Shop").content e {} .deleteCommandTest = .ok text ∧
      r ∈ e.relationships ∧ account.name = r.parent ∧
      (Layout.conventional "/sln" "Shop").artifact account .entityFaker = .ok faker ∧
      imports.Nodup ∧ faker.nameSpace ∈ imports ∧
      Text.Contains text (SourceFile.importLines imports) ∧
      Text.Contains text ("\nusing " ++ faker.nameSpace ++ ";\n") := by
  obtain ⟨text, htext⟩ : ∃ text, Draft.transfer.build >>=
      ((Layout.conventional "/sln" "Shop").content · {} .deleteCommandTest) = .ok text :=
    isSome_toOption_iff.mp (by decide +kernel)
  obtain ⟨e, build, rendered⟩ := bind_eq_ok_iff.mp htext
  obtain ⟨account, buildAccount⟩ : ∃ account, (Draft.bare "Account" "Accounts").build = .ok account :=
    isSome_toOption_iff.mp (by decide +kernel)
  have hparents : Draft.transfer.build.map (·.relationships.map (·.parent)) =
      .ok ["Account", "Account", "User", "Transfer"] := by decide +kernel
  have hmem : "Account" ∈ e.relationships.map (·.parent) := by
    rw [build] at hparents
    obtain ⟨_, ⟨⟩, hlist⟩ := map_eq_ok_iff.mp hparents
    rw [hlist]
    exact List.mem_cons_self
  obtain ⟨r, hr, hparent⟩ := List.mem_map.mp hmem
  have hname : account.name = "Account" :=
    (Draft.describes_of_build buildAccount).name.trans (by decide +kernel)
  obtain ⟨place, -, -, -, -, imports, members, -, -, -, -, -, hfile, hnodup, hlines, -, -, hseeds⟩ :=
    delete_tests_import_fakers _ e {} rendered
  obtain ⟨faker, -, hfaker, -, himported, -, -⟩ :=
    hseeds r hr _ account buildAccount (hname.trans hparent.symm)
  refine ⟨e, account, text, r, faker, imports, build, buildAccount, rendered, hr,
    hname.trans hparent.symm, hfaker, hnodup, himported, ?_, hlines _ himported⟩
  refine ⟨"namespace " ++ place.nameSpace ++ ";\n\n",
    "public class " ++ place.className ++ " : TestBase" ++ "\n" ++ "\x7b" ++ members ++ "\x7d\n", ?_⟩
  rw [hfile]
  simp only [String.append_assoc]

end Scaffold
