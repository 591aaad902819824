/-
  Scaffold/Proofs/Source/Edits.lean
  =================================
  **Every name is imported once, in the order of first use.**

  A template adds imports to its file, one or several at a time, and gives it members, in any order.
  Of all that, the file keeps the names in the order in which they were added, and the members given
  last (`edited_eq`). Each name is imported where it was first added, and the empty name never
  (`FirstAdditions`).
-/
import Mathlib.Data.List.Basic
import Mathlib.Data.List.Induction
import Scaffold.Proofs.Source.Imports

namespace Scaffold.SourceFile

/-! ### First additions -/

/-- The names are what was added: each but the empty one, in the order in which they were first
added. -/
structure FirstAdditions (added names : List String) : Prop where
  mem_iff : ∀ name, name ∈ names ↔ name ∈ added ∧ name ≠ ""
  in_order : names.Pairwise fun a b => added.idxOf a < added.idxOf b

namespace FirstAdditions

variable {added names : List String} {f : SourceFile}

/-- Each of them is there once. -/
theorem nodup (h : FirstAdditions added names) : names.Nodup := by
  refine h.in_order.imp ?_
  rintro a b hlt rfl
  exact Nat.lt_irrefl _ hlt

theorem nil : FirstAdditions [] [] := ⟨by simp, .nil⟩

/-- What is added later does not change the order of the names that are there. -/
theorem in_order_append (h : FirstAdditions added names) (later : List String) :
    names.Pairwise fun a b => (added ++ later).idxOf a < (added ++ later).idxOf b := by
  refine h.in_order.imp_of_mem ?_
  intro a b ha hb hlt
  rw [List.idxOf_append_of_mem ((h.mem_iff a).mp ha).1,
    List.idxOf_append_of_mem ((h.mem_iff b).mp hb).1]
  exact hlt

theorem importing (h : FirstAdditions added f.imports) (name : String) :
    FirstAdditions (added ++ [name]) (f.importing name).imports := by
  constructor
  · intro other
    rw [mem_imports_importing, h.mem_iff, List.mem_append, List.mem_singleton, or_and_right]
  · rcases importing_cases f name with ⟨hsame, -⟩ | ⟨hadd, hne, hnew⟩
    · rw [hsame]
      exact h.in_order_append [name]
    · have hfresh : name ∉ added := fun hmem => hnew ((h.mem_iff name).mpr ⟨hmem, hne⟩)
      rw [hadd]
      refine List.pairwise_append.mpr ⟨h.in_order_append [name], List.pairwise_singleton _ _, ?_⟩
      intro a ha b hb
      have hmem : a ∈ added := ((h.mem_iff a).mp ha).1
      rw [List.mem_singleton.mp hb, List.idxOf_append_of_mem hmem,
        List.idxOf_append_of_notMem hfresh]
      exact Nat.lt_add_right _ (List.idxOf_lt_length_of_mem hmem)

theorem importingAll (h : FirstAdditions added f.imports) (names : List String) :
    FirstAdditions (added ++ names) (f.importingAll names).imports := by
  unfold SourceFile.importingAll
  induction names generalizing f added with
  | nil =>
    rw [List.append_nil]
    exact h
  | cons name names ih =>
    have hrest := ih (h.importing name)
    rw [List.append_assoc] at hrest
    exact hrest

end FirstAdditions

/-! ### Edits -/

/-- One thing that a template does to its file. -/
inductive Edit
  | importing (name : String)
  | importingAll (names : List String)
  | withBody (body : String)
  deriving DecidableEq, Repr

namespace Edit

/-- The file after the edit. -/
def apply (f : SourceFile) : Edit → SourceFile
  | importing name => f.importing name
  | importingAll names => f.importingAll names
  | withBody body => f.withBody body

/-- The names that the edit adds. -/
def names : Edit → List String
  | importing name => [name]
  | importingAll names => names
  | withBody _ => []

/-- The members that the edit gives. -/
def body? : Edit → Option String
  | withBody body => some body
  | importing _ | importingAll _ => none

end Edit

/-- The file after some edits. -/
def edited (f : SourceFile) (edits : List Edit) : SourceFile := edits.foldl Edit.apply f

/-- All names that edits add, in the order they are added. -/
def addedNames (edits : List Edit) : List String := edits.flatMap Edit.names

/-- The members that edits give last. -/
def lastBody? (edits : List Edit) : Option String := (edits.filterMap Edit.body?).getLast?

section Edited

variable (f : SourceFile)

theorem importingAll_append (names others : List String) :
    f.importingAll (names ++ others) = (f.importingAll names).importingAll others :=
  List.foldl_append ..

theorem importing_withBody (body name : String) :
    (f.withBody body).importing name = (f.importing name).withBody body := by
  unfold importing withBody
  split <;> rfl

theorem importingAll_withBody (body : String) (names : List String) :
    (f.withBody body).importingAll names = (f.importingAll names).withBody body := by
  unfold importingAll
  induction names generalizing f with
  | nil => rfl
  | cons name names ih => rw [List.foldl_cons, List.foldl_cons, importing_withBody, ih]

theorem render_eq_parts : f.render = "namespace " ++ f.nameSpace ++ ";\n\n" ++
    (if f.imports = [] then ""
     else Text.endLines (f.imports.map fun name => "using " ++ name ++ ";") ++ "\n") ++
    f.declaration ++ "\n\x7b\n" ++ (if f.body = "" then "" else f.body ++ "\n") ++ "\x7d\n" := by
  unfold render importLines
  simp only [List.isEmpty_iff, String.isEmpty_iff]

/-- **A file keeps the names that were added and the members given last.** -/
theorem edited_eq (edits : List Edit) : f.edited edits =
    (f.importingAll (addedNames edits)).withBody ((lastBody? edits).getD f.body) := by
  induction edits using List.reverseRecOn with
  | nil => rfl
  | append_singleton edits edit ih =>
    have hlast : f.edited (edits ++ [edit]) = edit.apply (f.edited edits) := by
      rw [edited, List.foldl_append]
      rfl
    have hnames : addedNames (edits ++ [edit]) = addedNames edits ++ edit.names := by
      simp [addedNames]
    rw [hlast, ih, hnames, importingAll_append]
    cases edit with
    | importing name =>
      have hbody : lastBody? (edits ++ [.importing name]) = lastBody? edits := by
        simp [lastBody?, Edit.body?]
      rw [hbody]
      exact importing_withBody ..
    | importingAll names =>
      have hbody : lastBody? (edits ++ [.importingAll names]) = lastBody? edits := by
        simp [lastBody?, Edit.body?]
      rw [hbody]
      exact importingAll_withBody ..
    | withBody body =>
      have hbody : lastBody? (edits ++ [.withBody body]) = some body := by
        simp [lastBody?, Edit.body?]
      rw [hbody]
      rfl

/-- Edits that add the same names and give the same members last make the same file. -/
theorem edited_congr {edits others : List Edit}
    (hnames : f.importingAll (addedNames edits) = f.importingAll (addedNames others))
    (hbody : lastBody? edits = lastBody? others) : f.edited edits = f.edited others := by
  rw [edited_eq, edited_eq, hnames, hbody]

/-- Of edits in the middle of others only the names and the members count. -/
theorem edited_replace (front back : List Edit) {edits others : List Edit}
    (hnames : addedNames edits = addedNames others)
    (hbodies : edits.filterMap Edit.body? = others.filterMap Edit.body?) :
    f.edited (front ++ (edits ++ back)) = f.edited (front ++ (others ++ back)) := by
  apply edited_congr
  · unfold addedNames at hnames ⊢
    simp only [List.flatMap_append, hnames]
  · unfold lastBody?
    simp only [List.filterMap_append, hbodies]

/-- A name that is empty or was added before makes no difference. -/
theorem edited_skip {name : String} {front : List Edit} (h : name = "" ∨ name ∈ addedNames front)
    (back : List Edit) :
    f.edited (front ++ .importing name :: back) = f.edited (front ++ back) := by
  have hidle : (f.importingAll (addedNames front)).importing name =
      f.importingAll (addedNames front) := by
    rcases importing_cases (f.importingAll (addedNames front)) name with
      ⟨hsame, -⟩ | ⟨-, hne, hnew⟩
    · exact hsame
    · have hmem : name ∈ addedNames front := h.resolve_left hne
      exact absurd (mem_imports_importingAll.mpr (.inr ⟨hmem, hne⟩)) hnew
  apply edited_congr
  · have hcut : addedNames (front ++ .importing name :: back) =
        addedNames front ++ ([name] ++ addedNames back) := by
      simp [addedNames, Edit.names]
    have hjoin : addedNames (front ++ back) = addedNames front ++ addedNames back := by
      simp [addedNames]
    have hone : (f.importingAll (addedNames front)).importingAll [name] =
        f.importingAll (addedNames front) := hidle
    rw [hcut, hjoin, importingAll_append, importingAll_append, importingAll_append, hone]
  · simp [lastBody?, Edit.body?]

end Edited

/-- **Every name is imported once, in the order of first use.** A file that a template makes by any
edits has the line of its namespace, a line for each name but the empty one that was added, in the
order in which they were first added, with a blank line behind them when there are any, the
declaration, and the members given last between braces. So the text does not change when an empty
name or one that was added before is added, nor when names are added in one go or one by one. -/
theorem imports_once_in_first_use_order (nameSpace declaration : String) :
    let text (edits : List Edit) := (edited { nameSpace, declaration } edits).render
    (∀ edits, ∃ names, FirstAdditions (addedNames edits) names ∧ names.Nodup ∧
      let body := (lastBody? edits).getD ""
      text edits = "namespace " ++ nameSpace ++ ";\n\n" ++
        (if names = [] then ""
         else Text.endLines (names.map fun name => "using " ++ name ++ ";") ++ "\n") ++
        declaration ++ "\n\x7b\n" ++ (if body = "" then "" else body ++ "\n") ++ "\x7d\n") ∧
    ∀ front back : List Edit,
      (∀ name, name = "" ∨ name ∈ addedNames front →
        text (front ++ .importing name :: back) = text (front ++ back)) ∧
      (∀ names others, text (front ++ .importingAll (names ++ others) :: back) =
        text (front ++ .importingAll names :: .importingAll others :: back)) ∧
      (∀ name, text (front ++ .importingAll [name] :: back) =
        text (front ++ .importing name :: back)) ∧
      text (front ++ .importingAll [] :: back) = text (front ++ back) := by
  intro text
  constructor
  · intro edits
    let empty : SourceFile := { nameSpace, declaration }
    have hnone : FirstAdditions [] empty.imports := .nil
    have hfirst : FirstAdditions (addedNames edits)
        (empty.importingAll (addedNames edits)).imports := hnone.importingAll (addedNames edits)
    refine ⟨_, hfirst, hfirst.nodup, ?_⟩
    have hfile : empty.edited edits =
        { nameSpace, imports := (empty.importingAll (addedNames edits)).imports, declaration,
          body := (lastBody? edits).getD "" } := by
      rw [edited_eq, importingAll_eq]
      rfl
    change (empty.edited edits).render = _
    rw [hfile]
    exact render_eq_parts _
  · intro front back
    refine ⟨?_, ?_, ?_, ?_⟩
    · intro name hname
      exact congrArg render (edited_skip _ hname back)
    · intro names others
      have hnames : addedNames [.importingAll (names ++ others)] =
          addedNames [.importingAll names, .importingAll others] := by
        simp [addedNames, Edit.names]
      exact congrArg render (edited_replace _ front back hnames rfl)
    · intro name
      have hnames : addedNames [.importingAll [name]] = addedNames [.importing name] := rfl
      exact congrArg render (edited_replace _ front back hnames rfl)
    · have hnames : addedNames [.importingAll []] = addedNames [] := rfl
      exact congrArg render (edited_replace _ front back hnames rfl)

/-- A name that is there is skipped, before and after the members are given. -/
theorem test_names_imported_once :
    let text (edits : List Edit) := (edited
      { nameSpace := "Shop.Tests", declaration := "public class OrderTests" } edits).render
    let front := [Edit.importing "Xunit", .withBody "    // old",
      .importingAll ["FluentAssertions", "Xunit", ""]]
    let back := [Edit.withBody "    // body", .importing "System"]
    "Xunit" ∈ addedNames front ∧
      text (front ++ .importing "Xunit" :: back) = text (front ++ back) ∧
      text (front ++ back) = "namespace Shop.Tests;\n\n" ++
        "using Xunit;\nusing FluentAssertions;\nusing System;\n\n" ++
        "public class OrderTests\n\x7b\n    // body\n\x7d\n" := by
  intro text front back
  have hmem : "Xunit" ∈ addedNames front := by decide
  obtain ⟨-, hedits⟩ := imports_once_in_first_use_order "Shop.Tests" "public class OrderTests"
  obtain ⟨hskip, -⟩ := hedits front back
  exact ⟨hmem, hskip "Xunit" (.inr hmem), by decide +kernel⟩

end Scaffold.SourceFile
