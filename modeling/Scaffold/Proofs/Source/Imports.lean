/-
  Scaffold/Proofs/Source/Imports.lean
  ===================================
  **What a generated file imports.**

  A name that is added is imported, unless it is empty. However often names are added, each is
  imported once, and nothing but the imports changes.
-/
import Scaffold.Source.File

namespace Scaffold.SourceFile

variable {f : SourceFile} {name : String}

theorem importing_cases (f : SourceFile) (name : String) :
    (f.importing name = f ∧ (name = "" ∨ name ∈ f.imports)) ∨
      (f.importing name = { f with imports := f.imports ++ [name] } ∧ name ≠ "" ∧
        name ∉ f.imports) := by
  unfold importing
  by_cases hempty : name = ""
  · exact .inl (by simp [hempty])
  by_cases hmem : name ∈ f.imports
  · exact .inl (by simp [hmem])
  · exact .inr (by simp [hempty, hmem])

theorem mem_imports_importing {other : String} :
    other ∈ (f.importing name).imports ↔ other ∈ f.imports ∨ (other = name ∧ other ≠ "") := by
  rcases importing_cases f name with ⟨hsame, hname⟩ | ⟨hadded, hne, -⟩
  · rw [hsame]
    constructor
    · exact Or.inl
    · rintro (hmem | ⟨rfl, hne⟩)
      · exact hmem
      · exact hname.resolve_left hne
  · rw [hadded, List.mem_append, List.mem_singleton]
    refine or_congr_right ⟨fun h => ⟨h, h ▸ hne⟩, And.left⟩

theorem nodup_importing (h : f.imports.Nodup) : (f.importing name).imports.Nodup := by
  rcases importing_cases f name with ⟨hsame, -⟩ | ⟨hadded, -, hnew⟩
  · rw [hsame]
    exact h
  · rw [hadded]
    refine List.nodup_append.mpr ⟨h, by simp, ?_⟩
    rintro x hx y hy rfl
    rw [List.mem_singleton.mp hy] at hx
    exact hnew hx

theorem mem_imports_importingAll {names : List String} {other : String} :
    other ∈ (f.importingAll names).imports ↔ other ∈ f.imports ∨ (other ∈ names ∧ other ≠ "") := by
  unfold importingAll
  induction names generalizing f with
  | nil => simp
  | cons name names ih =>
    rw [List.foldl_cons, ih, mem_imports_importing, List.mem_cons, or_assoc, or_and_right]

/-- **Every name is imported once.** -/
theorem nodup_importingAll (h : f.imports.Nodup) (names : List String) :
    (f.importingAll names).imports.Nodup := by
  unfold importingAll
  induction names generalizing f with
  | nil => exact h
  | cons name names ih => exact ih (nodup_importing h)

theorem importingAll_eq (f : SourceFile) (names : List String) :
    f.importingAll names = { f with imports := (f.importingAll names).imports } := by
  unfold importingAll
  induction names generalizing f with
  | nil => rfl
  | cons name names ih =>
    rw [List.foldl_cons, ih]
    rcases importing_cases f name with ⟨hsame, -⟩ | ⟨hadded, -⟩
    · rw [hsame]
    · rw [hadded]

end Scaffold.SourceFile
