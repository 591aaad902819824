/-
  Scaffold/Proofs/Store.lean
  ==========================
  **What a write does to the files of a store.**

  The view of a store is `Store.read?`: the text at a path, component-equal spellings being one
  path. A write changes that view at one path and nowhere else (`read?_insertFile`), in whatever
  order the files are kept. A list of written artifacts therefore overrides the view one artifact
  after the other (`Store.Takes.read?`).
-/
import Scaffold.Batch
import Scaffold.Store

namespace Scaffold

/-! ### Equal paths -/

namespace Path

theorem Component.compare_eq_iff {a b : Component} : a.compare b = .eq ↔ a = b := by
  cases a <;> cases b <;> simp [Component.compare, Component.rank]

theorem compareComponents_eq_iff {as bs : List Component} :
    compareComponents as bs = .eq ↔ as = bs := by
  induction as generalizing bs with
  | nil => cases bs <;> simp [compareComponents]
  | cons a as ih =>
    cases bs with
    | nil => simp [compareComponents]
    | cons b bs => simp [compareComponents, Ordering.then_eq_eq, Component.compare_eq_iff, ih]

theorem same_iff {p q : String} : same p q = true ↔ components p = components q := by
  simp [same]

theorem compare_eq_iff_same {p q : String} : compare p q = .eq ↔ same p q = true := by
  rw [same_iff, compare, compareComponents_eq_iff]

end Path

/-! ### Reading after writing -/

namespace Store

/-- The text at a path among files. -/
def textAt (files : List StoredFile) (path : String) : Option String :=
  (files.find? (Path.same ·.path path)).map (·.content)

theorem read?_eq (s : Store) (path : String) : s.read? path = textAt s.files path := rfl

theorem textAt_cons (f : StoredFile) (fs : List StoredFile) (path : String) :
    textAt (f :: fs) path = if Path.same f.path path then some f.content else textAt fs path := by
  unfold textAt
  rw [List.find?_cons]
  cases Path.same f.path path <;> rfl

/-- A path has the text that was put there, every other path the text that it had. -/
theorem textAt_insertFile (path content query : String) (files : List StoredFile) :
    textAt (insertFile path content files) query =
      if Path.same path query then some content else textAt files query := by
  induction files with
  | nil => rw [insertFile, textAt_cons]
  | cons f fs ih =>
    rw [insertFile]
    cases hcompare : Path.compare path f.path with
    | lt => exact textAt_cons _ _ _
    | eq =>
      -- the file that is there keeps its spelling, which is the same path
      have hsame : Path.components path = Path.components f.path :=
        Path.same_iff.mp (Path.compare_eq_iff_same.mp hcompare)
      have hquery : Path.same f.path query = Path.same path query := by
        simp only [Path.same, hsame]
      simp only [textAt_cons, hquery]
      split <;> rfl
    | gt =>
      have hne : Path.components path ≠ Path.components f.path := by
        intro hsame
        rw [Path.compare_eq_iff_same.mpr (Path.same_iff.mpr hsame)] at hcompare
        cases hcompare
      simp only [textAt_cons, ih]
      by_cases hf : Path.same f.path query = true
      · have hnot : ¬Path.same path query = true := fun hpath =>
          hne ((Path.same_iff.mp hpath).trans (Path.same_iff.mp hf).symm)
        simp [hf, hnot]
      · simp [hf]

/-! ### Artifacts written one after the other -/

/-- The files after artifacts were written into them, in order. -/
def filesAfter (files : List StoredFile) (written : List Rendered) : List StoredFile :=
  written.foldl (fun files artifact => insertFile artifact.path artifact.content files) files

/-- The texts by path after artifacts were written, each in place of what was at its path. -/
def overridden (text? : String → Option String) (written : List Rendered) :
    String → Option String :=
  written.foldl (fun text? artifact path =>
    if Path.same artifact.path path then some artifact.content else text? path) text?

theorem textAt_filesAfter (files : List StoredFile) (written : List Rendered) :
    textAt (filesAfter files written) = overridden (textAt files) written := by
  induction written generalizing files with
  | nil => rfl
  | cons artifact written ih =>
    have hfirst : textAt (insertFile artifact.path artifact.content files) = fun path =>
        if Path.same artifact.path path then some artifact.content else textAt files path :=
      funext fun path => textAt_insertFile _ _ path files
    calc textAt (filesAfter files (artifact :: written))
        = overridden (textAt (insertFile artifact.path artifact.content files)) written := ih _
      _ = overridden (textAt files) (artifact :: written) := by rw [hfirst]; rfl

/-- A path that nothing was written to keeps its text. -/
theorem overridden_of_not_written {text? : String → Option String} {written : List Rendered}
    {path : String} (h : ∀ artifact ∈ written, Path.same artifact.path path = false) :
    overridden text? written path = text? path := by
  induction written generalizing text? with
  | nil => rfl
  | cons artifact written ih =>
    have hfirst : Path.same artifact.path path = false := h artifact List.mem_cons_self
    have hrest : ∀ other ∈ written, Path.same other.path path = false := fun other hother =>
      h other (List.mem_cons_of_mem _ hother)
    exact (ih hrest).trans (by simp [hfirst])

/-- From the store `before` to the store `after` exactly the artifacts `written` were written, in
order: every one of them is a write, and no file changed otherwise. -/
structure Takes (before : Store) (written : List Rendered) (after : Store) : Prop where
  files : after.files = filesAfter before.files written
  writes : after.writes = before.writes + written.length

namespace Takes

variable {first second third : Store} {written written' : List Rendered}

theorem refl (s : Store) : s.Takes [] s := ⟨rfl, rfl⟩

theorem trans (h : first.Takes written second) (h' : second.Takes written' third) :
    first.Takes (written ++ written') third := by
  constructor
  · rw [h'.files, h.files]
    exact (List.foldl_append ..).symm
  · rw [h'.writes, h.writes, List.length_append, Nat.add_assoc]

theorem read? (h : first.Takes written second) (path : String) :
    second.read? path = overridden first.read? written path := by
  rw [read?_eq, h.files, textAt_filesAfter]
  rfl

end Takes

/-- A store that accepts a text has taken it. -/
theorem takes_of_write {s s' : Store} {artifact : Rendered}
    (h : s.write artifact.path artifact.content = .ok s') : s.Takes [artifact] s' := by
  unfold write at h
  split at h
  · cases h
    exact ⟨rfl, rfl⟩
  · cases h

end Store

end Scaffold
