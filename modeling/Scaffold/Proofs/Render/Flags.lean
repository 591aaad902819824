/-
  Scaffold/Proofs/Render/Flags.lean
  =================================
  **What the flags change in the tests of the delete command.**

  A flag calls for a test and does nothing else. The names at the head of the file are resolved
  without the flags, no test looks at a flag, and no test has an empty text, so the file is the same
  frame around the tests that are called for (`Parts.text`). Switching a flag off takes out its test
  with the blank line in front of it.
-/
import Scaffold.Proofs.Entity.Names
import Scaffold.Proofs.Render.Delete
import Scaffold.Proofs.Source.Brackets

namespace Scaffold

/-- A text that is not the first of joined ones brings the separator in front of it. -/
theorem Text.exists_joinWith_insert (sep text : String) {front : List String} (h : front ≠ [])
    (back : List String) :
    ∃ rest, joinWith sep (front ++ text :: back) = joinWith sep front ++ (sep ++ text) ++ rest ∧
      joinWith sep (front ++ back) = joinWith sep front ++ rest := by
  cases back with
  | nil =>
    refine ⟨"", ?_, ?_⟩
    · rw [joinWith_append sep h (List.cons_ne_nil text [])]
      simp only [joinWith, String.append_assoc, String.append_empty]
    · rw [List.append_nil, String.append_empty]
  | cons next back =>
    refine ⟨sep ++ joinWith sep (next :: back), ?_, ?_⟩
    · rw [joinWith_append sep h (List.cons_ne_nil text _), joinWith_cons]
      simp only [List.isEmpty_cons, Bool.false_eq_true, if_false, String.append_assoc]
    · rw [joinWith_append sep h (List.cons_ne_nil next back), String.append_assoc]

/-- Generated code checks a permission exactly when it is protected. -/
theorem Flags.isSome_effectivePermission (flags : Flags) (action plural : String) :
    (flags.effectivePermission action plural).isSome = flags.isProtected := by
  unfold effectivePermission
  cases flags.isProtected <;> rfl

/-- A file with members has them between a text and a text. -/
theorem SourceFile.render_withBody (f : SourceFile) {body : String} (h : body ≠ "") :
    (f.withBody body).render = f.front ++ "\x7b\n" ++ body ++ "\n\x7d\n" := by
  have hopen : "\x7b\n" = "\x7b" ++ "\n" := rfl
  have hclose : "\n\x7d\n" = "\n" ++ "\x7d\n" := rfl
  have hbody : (f.withBody body).memberLines = "\n" ++ (body ++ "\n") := by
    simp [memberLines, withBody, h]
  rw [render_eq, hbody, hopen, hclose]
  simp only [front, withBody, String.append_assoc]

namespace DeleteSuite

/-! ### Texts without flags -/

/-- The texts that the tests of an entity are put together from. No test is without a text. -/
structure Parts where
  before : String
  happy : String
  missing : String
  soft : String
  permitted : String → String
  after : String
  happy_ne_empty : happy ≠ ""
  missing_ne_empty : missing ≠ ""
  soft_ne_empty : soft ≠ ""
  permitted_ne_empty : ∀ name, permitted name ≠ ""

/-- The tests of an entity in a frame. -/
def Parts.of (e : Entity) (before after : String) : Parts where
  before
  happy := Source.members (happyPath e)
  missing := Source.members (notFound e (e.key.type.badKey?.getD ""))
  soft := Source.members (softDelete e)
  permitted name := Source.members (permissionTest e name)
  after
  happy_ne_empty := members_testMethod_ne_empty _ _
  missing_ne_empty := members_testMethod_ne_empty _ _
  soft_ne_empty := members_testMethod_ne_empty _ _
  permitted_ne_empty _ := members_testMethod_ne_empty _ _

namespace Parts

variable (parts : Parts) (e : Entity) (flags : Flags)

/-- The tests that are called for: the first always, the others each for its own reason. -/
def fragments : List String :=
  [parts.happy] ++ (if e.key.type.badKey?.isSome then [parts.missing] else []) ++
    (if flags.softDelete then [parts.soft] else []) ++
    (flags.effectivePermission "Delete" e.plural).toList.map parts.permitted

/-- The file: the tests that are called for, one blank line between neighbours. -/
def text : String :=
  parts.before ++ Text.joinWith "\n\n" (parts.fragments e flags) ++ parts.after

/-! ### Switching one flag off -/

/-- A test that is not the first goes with the blank line in front of it. -/
theorem text_of_insert {flags without : Flags} (front back : List String) {test : String}
    (hfront : front ≠ []) (h : parts.fragments e flags = front ++ test :: back)
    (hwithout : parts.fragments e without = front ++ back) :
    ∃ first rest, parts.text e flags = first ++ ("\n\n" ++ test) ++ rest ∧
      parts.text e without = first ++ rest := by
  obtain ⟨rest, hwith, hleft⟩ := Text.exists_joinWith_insert "\n\n" test hfront back
  refine ⟨parts.before ++ Text.joinWith "\n\n" front, rest ++ parts.after, ?_, ?_⟩
  · rw [text, h, hwith]
    simp only [String.append_assoc]
  · rw [text, hwithout, hleft]
    simp only [String.append_assoc]

theorem text_without_softDelete (hsoft : flags.softDelete = true) :
    ∃ first rest, parts.text e flags = first ++ ("\n\n" ++ parts.soft) ++ rest ∧
      parts.text e { flags with softDelete := false } = first ++ rest := by
  apply parts.text_of_insert e
    ([parts.happy] ++ if e.key.type.badKey?.isSome then [parts.missing] else [])
    ((flags.effectivePermission "Delete" e.plural).toList.map parts.permitted)
  · simp
  · simp [fragments, hsoft]
  · simp [fragments, Flags.effectivePermission]

theorem text_without_permission {name : String}
    (hname : flags.effectivePermission "Delete" e.plural = some name) :
    ∃ first rest, parts.text e flags = first ++ ("\n\n" ++ parts.permitted name) ++ rest ∧
      parts.text e { flags with isProtected := false } = first ++ rest := by
  apply parts.text_of_insert e
    ([parts.happy] ++ (if e.key.type.badKey?.isSome then [parts.missing] else []) ++
      if flags.softDelete then [parts.soft] else []) []
  · simp
  · simp [fragments, hname]
  · simp [fragments, Flags.effectivePermission]

end Parts

/-! ### Rendering with any flags -/

theorem assemble_eq_fragments (e : Entity) (flags : Flags) (before after : String) :
    (fragments e flags).assemble =
      Text.joinWith "\n\n" ((Parts.of e before after).fragments e flags) := by
  have hmissing : ∀ key? : Option String, (key?.map (notFound e)).toList.map Source.members =
      if key?.isSome then [Source.members (notFound e (key?.getD ""))] else [] := by
    intro key?
    cases key? <;> rfl
  have htests : (happyPath e :: laterTests e flags).map Source.members =
      (Parts.of e before after).fragments e flags := by
    simp only [laterTests, Parts.fragments, Parts.of, List.map_cons, List.map_append, hmissing,
      List.append_assoc, List.singleton_append]
    cases flags.softDelete <;> cases flags.effectivePermission "Delete" e.plural <;> rfl
  rw [assemble_fragments, htests]

theorem assemble_ne_empty (e : Entity) (flags : Flags) : (fragments e flags).assemble ≠ "" := by
  rw [assemble_fragments]
  have hhappy : Source.members (happyPath e) ∈
      (happyPath e :: laterTests e flags).map Source.members :=
    List.mem_map_of_mem List.mem_cons_self
  exact (Text.contains_joinWith hhappy).ne_empty (members_testMethod_ne_empty _ _)

/-- With the flags of one rendering the names are resolved for all. -/
theorem exists_file_of_render {l : Layout} {e : Entity} {flags : Flags} {text : String}
    (h : render l e flags = .ok text) :
    ∃ file : SourceFile, ∀ others, render l e others =
      .ok (file.front ++ "\x7b\n" ++ (fragments e others).assemble ++ "\n\x7d\n") := by
  obtain ⟨place, fakes, feature, exceptions, parents, hplace, hfakes, hfeature, hexceptions,
    hparents, -⟩ := eq_of_render h
  let file : SourceFile :=
    ({ nameSpace := place.nameSpace,
       declaration := "public class " ++ place.className ++ " : TestBase" } :
      SourceFile).importingAll ([fakes, feature.nameSpace, "FluentAssertions",
        "Microsoft.EntityFrameworkCore", "Xunit", "Domain", exceptions, "System",
        "System.Threading.Tasks"] ++ parents)
  refine ⟨file, ?_⟩
  intro others
  have hrender : render l e others =
      .ok (file.withBody (fragments e others).assemble).render := by
    unfold render
    rw [hplace, hfakes, hfeature, hexceptions, hparents]
    rfl
  rw [hrender, file.render_withBody (assemble_ne_empty e others)]

theorem exists_parts_of_render {l : Layout} {e : Entity} {flags : Flags} {text : String}
    (h : render l e flags = .ok text) :
    ∃ before after, ∀ others,
      render l e others = .ok ((Parts.of e before after).text e others) := by
  obtain ⟨file, hfile⟩ := exists_file_of_render h
  refine ⟨file.front ++ "\x7b\n", "\n\x7d\n", ?_⟩
  intro others
  rw [hfile others, assemble_eq_fragments e others (file.front ++ "\x7b\n") "\n\x7d\n"]
  rfl

end DeleteSuite

/-- **Flags only add their own fragment.** Where the tests of an entity are rendered for some flags,
they are rendered for all: one frame around the first test, then the one for a missing row when the
type of the key has a value for it, the one for soft deletion when that is on, and the one for the
permission that is checked, if any. Taking out one of the last two with the blank line in front of
it gives the file with that flag off. -/
theorem flags_add_own_fragment (l : Layout) (e : Entity) {flags₀ : Flags} {suite : Rendered}
    (rendered : l.render e flags₀ .deleteCommandTest = .ok suite) :
    ∃ before after,
      let parts := DeleteSuite.Parts.of e before after
      ∀ flags : Flags,
        l.render e flags .deleteCommandTest =
          .ok { suite with content := parts.text e flags } ∧
        (flags.effectivePermission "Delete" e.plural).isSome = flags.isProtected ∧
        (flags.softDelete = true → ∃ first rest,
          parts.text e flags = first ++ ("\n\n" ++ parts.soft) ++ rest ∧
          parts.text e { flags with softDelete := false } = first ++ rest) ∧
        ∀ name, flags.effectivePermission "Delete" e.plural = some name → ∃ first rest,
          parts.text e flags = first ++ ("\n\n" ++ parts.permitted name) ++ rest ∧
          parts.text e { flags with isProtected := false } = first ++ rest := by
  obtain ⟨hkind, hplace, hcontent⟩ := Layout.render_eq_ok_iff.mp rendered
  obtain ⟨before, after, hparts⟩ := DeleteSuite.exists_parts_of_render hcontent
  refine ⟨before, after, ?_⟩
  intro parts flags
  refine ⟨?_, ?_, ?_, ?_⟩
  · exact Layout.render_eq_ok_iff.mpr ⟨hkind, hplace, hparts flags⟩
  · exact flags.isSome_effectivePermission "Delete" e.plural
  · exact parts.text_without_softDelete e flags
  · intro name
    exact parts.text_without_permission e flags

/-- The tests of a transfer, rendered without flags, tell what they are with any. -/
theorem transfer_tests_by_flags :
    ∃ (e : Entity) (suite : Rendered) (before after : String), Draft.transfer.build = .ok e ∧
      (Layout.conventional "/sln" "Shop").render e {} .deleteCommandTest = .ok suite ∧
      ∀ flags, (Layout.conventional "/sln" "Shop").render e flags .deleteCommandTest =
        .ok { suite with content := (DeleteSuite.Parts.of e before after).text e flags } := by
  obtain ⟨suite, hsuite⟩ : ∃ suite, Draft.transfer.build >>=
      ((Layout.conventional "/sln" "Shop").render · {} .deleteCommandTest) = .ok suite :=
    isSome_toOption_iff.mp (by decide +kernel)
  obtain ⟨e, build, rendered⟩ := bind_eq_ok_iff.mp hsuite
  obtain ⟨before, after, hflags⟩ := flags_add_own_fragment _ e rendered
  exact ⟨e, suite, before, after, build, rendered, fun flags => (hflags flags).1⟩

end Scaffold
