/-
  Scaffold/Proofs/Store/Order.lean
  ================================
  **The files of a store are in order, every path once.**

  Paths are ordered component by component, and this is a total order on what paths mean. A store
  that came about by its own operations has its files in that order (`Reachable.ordered`). Two lists
  of files in order are equal when they have the same members, or when they have the same paths and
  the same text at every path. So writing a list of artifacts twice is writing it once
  (`filesAfter_twice`), and where no two of them fall on one path, only which ones were written
  matters, not their order (`filesAfter_of_mem_iff`).
-/
import Mathlib.Data.List.Induction
import Mathlib.Data.List.Sort
import Scaffold.Proofs.Store

namespace Scaffold

/-! ### The order of paths -/

namespace Path

/-- The name that a component is; nothing for the other sorts. -/
def Component.text : Component → String
  | .name text => text
  | _ => ""

theorem Component.compare_eq_lex (a b : Component) :
    a.compare b = compareLex (compareOn Component.rank) (compareOn Component.text) a b := by
  cases a <;> cases b <;> rfl

theorem compareComponents_eq_lex (as bs : List Component) :
    compareComponents as bs =
      List.compareLex (compareLex (compareOn Component.rank) (compareOn Component.text)) as bs := by
  induction as generalizing bs with
  | nil => cases bs <;> rfl
  | cons a as ih =>
    cases bs with
    | nil => rfl
    | cons b bs => rw [compareComponents, List.compareLex_cons_cons, a.compare_eq_lex, ih]

def Before (p q : String) : Prop := compare p q = .lt

theorem before_trans {p q r : String} (h : Before p q) (h' : Before q r) : Before p r := by
  unfold Before compare at *
  rw [compareComponents_eq_lex] at *
  exact Std.TransCmp.lt_trans h h'

theorem before_of_compare_gt {p q : String} (h : compare p q = .gt) : Before q p := by
  unfold Before compare at *
  rw [compareComponents_eq_lex] at *
  exact Std.OrientedCmp.gt_iff_lt.mp h

theorem Before.asymm {p q : String} (h : Before p q) : ¬ Before q p := by
  intro h'
  have hself : compare p p = .lt := before_trans h h'
  have heq : compare p p = .eq := compare_eq_iff_same.mpr (same_iff.mpr rfl)
  rw [heq] at hself
  cases hself

theorem Before.not_same {p q : String} (h : Before p q) : same p q = false := by
  refine Bool.eq_false_iff.mpr ?_
  intro hsame
  have heq : compare p q = .eq := compare_eq_iff_same.mpr hsame
  rw [Before, heq] at h
  cases h

theorem same_self (p : String) : same p p = true := same_iff.mpr rfl

end Path

namespace Store

/-! ### Files in order -/

/-- Files in the order of their paths, every path once. -/
def Ordered (files : List StoredFile) : Prop :=
  files.Pairwise fun f g => Path.Before f.path g.path

theorem path_of_mem_insertFile {path content : String} {files : List StoredFile} {g : StoredFile}
    (h : g ∈ insertFile path content files) : g.path = path ∨ ∃ f ∈ files, f.path = g.path := by
  induction files with
  | nil =>
    rw [List.mem_singleton.mp h]
    exact .inl rfl
  | cons f fs ih =>
    rw [insertFile] at h
    cases hcompare : Path.compare path f.path with
    | lt =>
      rw [hcompare] at h
      rcases List.mem_cons.mp h with rfl | hg
      · exact .inl rfl
      · exact .inr ⟨g, hg, rfl⟩
    | eq =>
      rw [hcompare] at h
      rcases List.mem_cons.mp h with rfl | hg
      · exact .inr ⟨f, List.mem_cons_self, rfl⟩
      · exact .inr ⟨g, List.mem_cons_of_mem f hg, rfl⟩
    | gt =>
      rw [hcompare] at h
      rcases List.mem_cons.mp h with rfl | hg
      · exact .inr ⟨g, List.mem_cons_self, rfl⟩
      · rcases ih hg with hpath | ⟨k, hk, hpath⟩
        · exact .inl hpath
        · exact .inr ⟨k, List.mem_cons_of_mem f hk, hpath⟩

theorem Ordered.insertFile {files : List StoredFile} (h : Ordered files) (path content : String) :
    Ordered (insertFile path content files) := by
  induction files with
  | nil => exact List.pairwise_singleton _ _
  | cons f fs ih =>
    obtain ⟨hf, hfs⟩ := List.pairwise_cons.mp h
    rw [Store.insertFile]
    cases hcompare : Path.compare path f.path with
    | lt =>
      refine List.pairwise_cons.mpr ⟨?_, h⟩
      intro g hg
      rcases List.mem_cons.mp hg with rfl | hg
      · exact hcompare
      · exact Path.before_trans hcompare (hf g hg)
    | eq => exact List.pairwise_cons.mpr ⟨hf, hfs⟩
    | gt =>
      refine List.pairwise_cons.mpr ⟨?_, ih hfs⟩
      intro g hg
      rcases path_of_mem_insertFile hg with hpath | ⟨k, hk, hpath⟩
      · rw [hpath]
        exact Path.before_of_compare_gt hcompare
      · rw [← hpath]
        exact hf k hk

theorem Ordered.filesAfter {files : List StoredFile} (h : Ordered files) (written : List Rendered) :
    Ordered (filesAfter files written) := by
  induction written generalizing files with
  | nil => exact h
  | cons artifact written ih => exact ih (h.insertFile artifact.path artifact.content)

/-- The stores that come about from an empty one by making directories and writing files. A store
that is cleared is an empty one again. -/
inductive Reachable : Store → Prop
  | empty : Reachable ∅
  | createDirectories {s : Store} (h : Reachable s) (path : String) :
      Reachable (s.createDirectories path)
  | write {s s' : Store} (h : Reachable s) {path content : String}
      (written : s.write path content = .ok s') : Reachable s'

/-- **A store keeps its files in order.** -/
theorem Reachable.ordered {s : Store} (h : s.Reachable) : Ordered s.files := by
  induction h with
  | empty => exact List.Pairwise.nil
  | createDirectories _ path ih => exact ih
  | @write s s' _ path content written ih =>
    unfold Store.write at written
    split at written
    · cases written
      exact ih.insertFile path content
    · cases written

/-! ### Files in order are known by what is read from them -/

theorem textAt_eq_none_iff {files : List StoredFile} {path : String} :
    textAt files path = none ↔ ∀ f ∈ files, Path.same f.path path = false := by
  simp [textAt]

theorem textAt_of_before {files : List StoredFile} {path query : String}
    (h : ∀ f ∈ files, Path.Before path f.path) (hquery : Path.same path query = true) :
    textAt files query = none := by
  refine textAt_eq_none_iff.mpr ?_
  intro f hf
  have hnot := (h f hf).not_same
  rw [Path.same, Path.same_iff.mp hquery, ← Path.same] at hnot
  rw [Path.same, Bool.beq_comm, ← Path.same]
  exact hnot

theorem eq_of_textAt {files others : List StoredFile} (h : Ordered files) (h' : Ordered others)
    (hpaths : files.map (·.path) = others.map (·.path))
    (htext : ∀ path, textAt files path = textAt others path) : files = others := by
  induction files generalizing others with
  | nil => exact (List.map_eq_nil_iff.mp hpaths.symm).symm
  | cons f fs ih =>
    cases others with
    | nil => cases hpaths
    | cons g gs =>
      have hpath : f.path = g.path := (List.cons.inj hpaths).1
      have hrest : fs.map (·.path) = gs.map (·.path) := (List.cons.inj hpaths).2
      obtain ⟨hf, hfs⟩ := List.pairwise_cons.mp h
      obtain ⟨hg, hgs⟩ := List.pairwise_cons.mp h'
      have hcontent : f.content = g.content := by
        have hhead := htext f.path
        rw [textAt_cons, textAt_cons, ← hpath, if_pos (Path.same_self _), if_pos (Path.same_self _)]
          at hhead
        exact Option.some.inj hhead
      have htail : ∀ path, textAt fs path = textAt gs path := by
        intro path
        by_cases hsame : Path.same f.path path = true
        · rw [textAt_of_before hf hsame, textAt_of_before hg (hpath ▸ hsame)]
        · have hboth := htext path
          rw [textAt_cons, textAt_cons, ← hpath, if_neg hsame, if_neg hsame] at hboth
          exact hboth
      have hhead : f = g := by
        cases f
        cases g
        simp only at hpath hcontent
        rw [hpath, hcontent]
      rw [hhead, ih hfs hgs hrest htail]

/-! ### Writing twice -/

/-- Writing where there is a file keeps the paths and their spellings. -/
theorem map_path_insertFile {files : List StoredFile} (h : Ordered files) {path : String}
    (hpath : textAt files path ≠ none) (content : String) :
    (insertFile path content files).map (·.path) = files.map (·.path) := by
  induction files with
  | nil => exact absurd rfl hpath
  | cons f fs ih =>
    obtain ⟨hf, hfs⟩ := List.pairwise_cons.mp h
    rw [insertFile]
    cases hcompare : Path.compare path f.path with
    | lt =>
      -- a path that stands before all files is not among them
      have hbefore : ∀ g ∈ f :: fs, Path.Before path g.path := by
        intro g hg
        rcases List.mem_cons.mp hg with rfl | hg
        · exact hcompare
        · exact Path.before_trans hcompare (hf g hg)
      exact absurd (textAt_of_before hbefore (Path.same_self path)) hpath
    | eq => rfl
    | gt =>
      have hnot : ¬ Path.same f.path path = true := by
        rw [(Path.before_of_compare_gt hcompare).not_same]
        exact Bool.false_ne_true
      rw [textAt_cons, if_neg hnot] at hpath
      rw [List.map_cons, List.map_cons, ih hfs hpath]

/-- After all are written, a path that one of them was written to has a fixed text. -/
theorem exists_overridden {written : List Rendered} {path : String}
    (h : ∃ artifact ∈ written, Path.same artifact.path path = true) :
    ∃ text, ∀ text?, overridden text? written path = some text := by
  -- the last one that was written there has the say, so the rest is asked first
  induction written with
  | nil =>
    obtain ⟨_, hmem, -⟩ := h
    cases hmem
  | cons first rest ih =>
    by_cases hrest : ∃ artifact ∈ rest, Path.same artifact.path path = true
    · obtain ⟨text, htext⟩ := ih hrest
      exact ⟨text, fun text? => htext _⟩
    · refine ⟨first.content, ?_⟩
      intro text?
      obtain ⟨artifact, hmem, hsame⟩ := h
      have hfirst : Path.same first.path path = true := by
        rcases List.mem_cons.mp hmem with rfl | hmem
        · exact hsame
        · exact absurd ⟨artifact, hmem, hsame⟩ hrest
      have hothers : ∀ other ∈ rest, Path.same other.path path = false := by
        intro other hother
        exact Bool.eq_false_iff.mpr fun hother' => hrest ⟨other, hother, hother'⟩
      exact (overridden_of_not_written hothers).trans (if_pos hfirst)

theorem overridden_twice (text? : String → Option String) (written : List Rendered) :
    overridden (overridden text? written) written = overridden text? written := by
  funext path
  by_cases h : ∃ artifact ∈ written, Path.same artifact.path path = true
  · obtain ⟨text, htext⟩ := exists_overridden h
    rw [htext, htext]
  · refine overridden_of_not_written ?_
    intro artifact hmem
    exact Bool.eq_false_iff.mpr fun hsame => h ⟨artifact, hmem, hsame⟩

theorem map_path_filesAfter {files : List StoredFile} (h : Ordered files) {written : List Rendered}
    (hwritten : ∀ artifact ∈ written, textAt files artifact.path ≠ none) :
    (filesAfter files written).map (·.path) = files.map (·.path) := by
  induction written generalizing files with
  | nil => rfl
  | cons first rest ih =>
    have hfirst := map_path_insertFile h (hwritten first List.mem_cons_self) first.content
    have hrest : ∀ artifact ∈ rest,
        textAt (insertFile first.path first.content files) artifact.path ≠ none := by
      intro artifact hmem
      rw [textAt_insertFile]
      split
      · exact Option.some_ne_none _
      · exact hwritten artifact (List.mem_cons_of_mem first hmem)
    exact (ih (h.insertFile first.path first.content) hrest).trans hfirst

/-- **Writing the same again changes nothing**, not even the spelling of a path. -/
theorem filesAfter_twice {files : List StoredFile} (h : Ordered files) (written : List Rendered) :
    filesAfter (filesAfter files written) written = filesAfter files written := by
  have hfirst : Ordered (filesAfter files written) := h.filesAfter written
  apply eq_of_textAt (hfirst.filesAfter written) hfirst
  · apply map_path_filesAfter hfirst
    intro artifact hmem
    obtain ⟨text, htext⟩ := exists_overridden ⟨artifact, hmem, Path.same_self artifact.path⟩
    rw [textAt_filesAfter, htext]
    exact Option.some_ne_none text
  · intro path
    rw [textAt_filesAfter, textAt_filesAfter, overridden_twice]

/-! ### Writing in another order -/

/-- Artifacts that do not overwrite one another: on one path there is one artifact. -/
def Separate (written : List Rendered) : Prop :=
  ∀ a ∈ written, ∀ b ∈ written, Path.same a.path b.path = true → a = b

theorem mem_insertFile_iff {path content : String} {files : List StoredFile} {f : StoredFile}
    (h : ∀ g ∈ files, Path.same path g.path = true → g = ⟨path, content⟩) :
    f ∈ insertFile path content files ↔ f = ⟨path, content⟩ ∨ f ∈ files := by
  induction files with
  | nil => simp [insertFile]
  | cons g gs ih =>
    have hgs := ih fun k hk => h k (List.mem_cons_of_mem g hk)
    rw [insertFile]
    cases hcompare : Path.compare path g.path with
    | lt => exact List.mem_cons
    | eq =>
      obtain rfl := h g List.mem_cons_self (Path.compare_eq_iff_same.mp hcompare)
      simp
    | gt => simp only [List.mem_cons, hgs, or_left_comm]

/-- From nothing, the files are those of the artifacts. -/
theorem mem_filesAfter_iff {written : List Rendered} (h : Separate written) {f : StoredFile} :
    f ∈ filesAfter [] written ↔ ∃ artifact ∈ written, f = ⟨artifact.path, artifact.content⟩ := by
  induction written using List.reverseRecOn generalizing f with
  | nil => simp [filesAfter]
  | append_singleton written last ih =>
    have hwritten : Separate written := fun a ha b hb =>
      h a (List.mem_append_left _ ha) b (List.mem_append_left _ hb)
    have hlast : filesAfter [] (written ++ [last]) =
        insertFile last.path last.content (filesAfter [] written) := by
      simp only [filesAfter, List.foldl_append, List.foldl_cons, List.foldl_nil]
    rw [hlast, mem_insertFile_iff]
    · simp only [ih hwritten, List.mem_append, List.mem_singleton, or_and_right, exists_or,
        exists_eq_left]
      exact or_comm
    · intro g hg hsame
      obtain ⟨artifact, hmem, rfl⟩ := (ih hwritten).mp hg
      have heq : last = artifact :=
        h last (List.mem_append_right _ (List.mem_singleton_self last)) artifact
          (List.mem_append_left _ hmem) hsame
      rw [heq]

/-- **From nothing, the order does not matter**, nor how often an artifact is written, when on one
path there is one artifact. -/
theorem filesAfter_of_mem_iff {written others : List Rendered} (h : Separate written)
    (hmem : ∀ artifact, artifact ∈ written ↔ artifact ∈ others) :
    filesAfter [] written = filesAfter [] others := by
  have hothers : Separate others := by
    intro a ha b hb
    exact h a ((hmem a).mpr ha) b ((hmem b).mpr hb)
  have hnil : Ordered [] := List.Pairwise.nil
  have : Std.Irrefl fun f g : StoredFile => Path.Before f.path g.path :=
    ⟨fun f hf => hf.asymm hf⟩
  have : Std.Antisymm fun f g : StoredFile => Path.Before f.path g.path :=
    ⟨fun f g hf hg => absurd hg hf.asymm⟩
  apply List.Pairwise.eq_of_mem_iff (hnil.filesAfter written) (hnil.filesAfter others)
  intro f
  rw [mem_filesAfter_iff h, mem_filesAfter_iff hothers]
  simp only [hmem]

end Store

end Scaffold
