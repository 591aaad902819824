/-
  Scaffold/Proofs/Render/Delete.lean
  ==================================
  **What the delete feature and its tests hold.**

  A rendered file is its class around members that are known: the command and the handler of the
  feature, the tests of the suite. Of the tests the first is always there; `laterTests` lists the
  others, each under its own condition. No test has an empty text, so none is dropped when the class
  is put together (`assemble_fragments`), and the file is the first test followed by the others
  (`tests_in_order`).
-/
import Scaffold.Proofs.Entity.Names
import Scaffold.Proofs.Refusal
import Scaffold.Proofs.Source.Contents
import Scaffold.Render

namespace Scaffold

/-- An artifact is rendered when its place and its text can be made out. -/
theorem Layout.render_eq_ok_iff {l : Layout} {e : Entity} {flags : Flags} {kind : ArtifactKind}
    {artifact : Rendered} :
    l.render e flags kind = .ok artifact ↔ kind = artifact.kind ∧
      l.artifact e kind = .ok artifact.place ∧ l.content e flags kind = .ok artifact.content := by
  unfold render
  constructor
  · intro h
    obtain ⟨place, hplace, h⟩ := bind_eq_ok_iff.mp h
    obtain ⟨content, hcontent, h⟩ := bind_eq_ok_iff.mp h
    cases h
    exact ⟨rfl, hplace, hcontent⟩
  · rintro ⟨rfl, hplace, hcontent⟩
    rw [hplace, hcontent]
    rfl

theorem Layout.content_of_render {l : Layout} {e : Entity} {flags : Flags} {kind : ArtifactKind}
    {artifact : Rendered} (h : l.render e flags kind = .ok artifact) :
    l.content e flags kind = .ok artifact.content :=
  (render_eq_ok_iff.mp h).2.2

namespace Handler

variable {l : Layout} {e : Entity} {flags : Flags} {text : String}

theorem isIdentifier_repositoryName (he : e.IsNamed) :
    Name.isIdentifier (repositoryName e) = true :=
  Name.isIdentifier_append_identifier (Name.isIdentifier_lowerFirst he.name) (by decide)

/-- Types and names of what a handler is given are identifiers. -/
theorem isIdentifier_dependency (he : e.IsNamed) {permission : Option String} {d : Dependency}
    (hd : d ∈ dependencies e permission) :
    Name.isIdentifier d.type = true ∧ Name.isIdentifier d.name = true := by
  have hrepository : Name.isIdentifier (Name.repository e.name) = true :=
    Name.isIdentifier_append_identifier
      (Name.isIdentifier_append_identifier (by decide) he.name) (by decide)
  unfold dependencies at hd
  rcases List.mem_append.mp hd with hown | hguard
  · rcases List.mem_cons.mp hown with rfl | hunit
    · exact ⟨hrepository, isIdentifier_repositoryName he⟩
    · rw [List.mem_singleton.mp hunit]
      decide
  · split at hguard
    · rw [List.mem_singleton.mp hguard]
      decide
    · cases hguard

theorem eq_of_render (h : render l e flags = .ok text) :
    ∃ file : SourceFile, text = (file.withBody
      (Source.members (lines e (flags.effectivePermission "Delete" e.plural)))).render := by
  unfold render at h
  obtain ⟨place, -, h⟩ := bind_eq_ok_iff.mp h
  obtain ⟨entityServices, -, h⟩ := bind_eq_ok_iff.mp h
  obtain ⟨services, -, h⟩ := bind_eq_ok_iff.mp h
  obtain ⟨exceptions, -, h⟩ := bind_eq_ok_iff.mp h
  cases h
  exact ⟨_, rfl⟩

theorem holds_commandLine (e : Entity) (permission : Option String) :
    Source.Holds (lines e permission) (commandLine e) :=
  (Source.Holds.of_mem (List.mem_singleton_self _)).spaced List.mem_cons_self

/-- The feature declares its command. -/
theorem contains_commandLine (h : render l e flags = .ok text) :
    Text.Contains text (commandLine e) := by
  obtain ⟨file, rfl⟩ := eq_of_render h
  exact (SourceFile.contains_body _).trans (holds_commandLine e _).members

end Handler

namespace DeleteSuite

variable {e : Entity} {flags : Flags}

/-! ### The tests of a class -/

theorem members_testMethod_ne_empty (name : String) (body : List (List String)) :
    Source.members (testMethod name body) ≠ "" := by
  have hfact : Source.Holds (testMethod name body) "[Fact]" :=
    .of_mem (List.mem_append_left _ (List.mem_append_left _ List.mem_cons_self))
  exact hfact.members.ne_empty (by decide)

/-- The tests after the first, as far as they are called for. -/
def laterTests (e : Entity) (flags : Flags) : List (List String) :=
  (e.key.type.badKey?.map (notFound e)).toList ++
    (if flags.softDelete then [softDelete e] else []) ++
    ((flags.effectivePermission "Delete" e.plural).map (permissionTest e)).toList

/-- Every test that is called for is in the class, and they are in order. -/
theorem assemble_fragments (e : Entity) (flags : Flags) :
    (fragments e flags).assemble =
      Text.joinWith "\n\n" ((happyPath e :: laterTests e flags).map Source.members) := by
  have hhappy : Source.members (happyPath e) ≠ "" := members_testMethod_ne_empty _ _
  have hmissing : ∀ key, Source.members (notFound e key) ≠ "" := fun _ =>
    members_testMethod_ne_empty _ _
  have hsoft : Source.members (softDelete e) ≠ "" := members_testMethod_ne_empty _ _
  have hpermission : ∀ name, Source.members (permissionTest e name) ≠ "" := fun _ =>
    members_testMethod_ne_empty _ _
  unfold Fragments.assemble fragments laterTests FragmentKind.all
  cases e.key.type.badKey? <;> cases flags.effectivePermission "Delete" e.plural <;>
    cases flags.softDelete <;> simp [hhappy, hmissing, hsoft, hpermission]

/-! ### Rows that the tests insert -/

section Seeded

variable {part : String}

/-- The creation data of the inserted row takes the clauses of all parents. -/
theorem holds_arrangeSeeded (e : Entity) :
    Source.Holds (arrangeSeeded e)
      ("new Fake" ++ e.name ++ "ForCreationDto()" ++ (Seeds.of e).clauses ++ ".Generate());") := by
  refine ⟨_, List.mem_cons_of_mem _ (List.mem_cons_of_mem _ List.mem_cons_self), ?_⟩
  refine ⟨(Seeds.of e).statements ++ "var " ++ Name.fakeVariable e.name ++ " = " ++
    Name.faker e.name ++ ".Generate(", "", ?_⟩
  have hnew : ".Generate(new " = ".Generate(" ++ "new " := rfl
  have hfake : "new Fake" = "new " ++ "Fake" := rfl
  have hdto : "ForCreationDto()" = "ForCreationDto" ++ "()" := rfl
  simp only [hnew, hfake, hdto, Name.faker, DtoShape.className, DtoShape.suffix,
    String.append_assoc, String.append_empty]

theorem holds_happyPath (h : Source.Holds (arrangeSeeded e) part) :
    Source.Holds (happyPath e) part :=
  (h.spaced List.mem_cons_self).block _

theorem holds_softDelete (h : Source.Holds (arrangeSeeded e) part) :
    Source.Holds (softDelete e) part :=
  (h.spaced List.mem_cons_self).block _

end Seeded

/-! ### The file -/

/-- What the file is put together from. -/
theorem eq_of_render {l : Layout} {text : String} (h : render l e flags = .ok text) :
    ∃ place fakes feature exceptions parents,
      l.artifact e .deleteCommandTest = .ok place ∧ l.namespaceOf e (.fakes e.name) = .ok fakes ∧
      l.artifact e .deleteFeature = .ok feature ∧ l.namespaceOf e .exceptions = .ok exceptions ∧
      Seeds.imports l e = .ok parents ∧
      text = ((({ nameSpace := place.nameSpace,
                  declaration := "public class " ++ place.className ++ " : TestBase" } :
            SourceFile).importingAll ([fakes, feature.nameSpace, "FluentAssertions",
          "Microsoft.EntityFrameworkCore", "Xunit", "Domain", exceptions, "System",
          "System.Threading.Tasks"] ++ parents)).withBody (fragments e flags).assemble).render := by
  unfold render at h
  obtain ⟨place, hplace, h⟩ := bind_eq_ok_iff.mp h
  obtain ⟨fakes, hfakes, h⟩ := bind_eq_ok_iff.mp h
  obtain ⟨feature, hfeature, h⟩ := bind_eq_ok_iff.mp h
  obtain ⟨exceptions, hexceptions, h⟩ := bind_eq_ok_iff.mp h
  obtain ⟨parents, hparents, h⟩ := bind_eq_ok_iff.mp h
  cases h
  exact ⟨place, fakes, feature, exceptions, parents, hplace, hfakes, hfeature, hexceptions,
    hparents, rfl⟩

/-- Every test of the class stands in the file. -/
theorem contains_test {l : Layout} {text : String} (h : render l e flags = .ok text)
    {test : List String} (htest : test ∈ happyPath e :: laterTests e flags) :
    Text.Contains text (Source.members test) := by
  obtain ⟨_, _, _, _, _, -, -, -, -, -, rfl⟩ := eq_of_render h
  refine (SourceFile.contains_body _).trans ?_
  change Text.Contains (fragments e flags).assemble _
  rw [assemble_fragments]
  exact Text.contains_joinWith (List.mem_map_of_mem htest)

/-- The first test stands in front of all others. -/
theorem tests_in_order {l : Layout} {text : String} (h : render l e flags = .ok text) :
    ∃ first rest, text = first ++ rest ∧ Text.Contains first (Source.members (happyPath e)) ∧
      ∀ test ∈ laterTests e flags, Text.Contains rest (Source.members test) := by
  obtain ⟨file, rfl⟩ : ∃ file : SourceFile,
      text = (file.withBody (fragments e flags).assemble).render := by
    obtain ⟨_, _, _, _, _, -, -, -, -, -, htext⟩ := eq_of_render h
    exact ⟨_, htext⟩
  obtain ⟨before, after, hfile⟩ :=
    (file.withBody (fragments e flags).assemble).contains_body
  have hbody : (file.withBody (fragments e flags).assemble).body =
      Text.joinWith "\n\n" ((happyPath e :: laterTests e flags).map Source.members) :=
    assemble_fragments e flags
  rw [hbody, List.map_cons, Text.joinWith_cons] at hfile
  have hlater : ∀ test ∈ laterTests e flags, Text.Contains
      (Text.joinWith "\n\n" ((laterTests e flags).map Source.members)) (Source.members test) :=
    fun test htest => Text.contains_joinWith (List.mem_map_of_mem htest)
  generalize Text.joinWith "\n\n" ((laterTests e flags).map Source.members) = later
    at hfile hlater
  generalize (if ((laterTests e flags).map Source.members).isEmpty then "" else "\n\n") = glue
    at hfile
  refine ⟨before ++ Source.members (happyPath e), glue ++ later ++ after, ?_, ?_, ?_⟩
  · simp only [hfile, String.append_assoc]
  · exact (Text.Contains.refl _).append_left before
  · intro test htest
    exact ((hlater test htest).append_left glue).append_right after

end DeleteSuite

end Scaffold
