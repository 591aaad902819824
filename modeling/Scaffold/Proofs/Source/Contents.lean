/-
  Scaffold/Proofs/Source/Contents.lean
  ====================================
  **What stands in a generated file.**

  A file is put together from texts that are never looked into again: lines are moved to the right,
  put between braces, joined, and wrapped. Whatever stood in such a text stands in the file
  (`Source.Holds.block`, `SourceFile.contains_body`), so a fact about a file is proved where its
  text is made.
-/
import Scaffold.Source.Block
import Scaffold.Source.File
import Scaffold.Source.Fragments

namespace Scaffold

/-! ### Texts in texts -/

namespace Text

/-- `part` stands somewhere in `text`. -/
def Contains (text part : String) : Prop := ∃ before after, text = before ++ part ++ after

namespace Contains

variable {text part other : String}

theorem refl (text : String) : Contains text text := ⟨"", "", by simp⟩

theorem trans (h : Contains text other) (h' : Contains other part) : Contains text part := by
  obtain ⟨before, after, rfl⟩ := h
  obtain ⟨before', after', rfl⟩ := h'
  exact ⟨before ++ before', after' ++ after, by simp only [String.append_assoc]⟩

theorem append_left (h : Contains text part) (other : String) : Contains (other ++ text) part := by
  obtain ⟨before, after, rfl⟩ := h
  exact ⟨other ++ before, after, by simp only [String.append_assoc]⟩

theorem append_right (h : Contains text part) (other : String) : Contains (text ++ other) part := by
  obtain ⟨before, after, rfl⟩ := h
  exact ⟨before, after ++ other, by simp only [String.append_assoc]⟩

theorem ne_empty (h : Contains text part) (hpart : part ≠ "") : text ≠ "" := by
  obtain ⟨before, after, rfl⟩ := h
  intro hempty
  have hparts := String.append_eq_empty_iff.mp hempty
  exact hpart (String.append_eq_empty_iff.mp hparts.1).2

end Contains

/-- The first of several texts stands in front of the others. -/
theorem joinWith_cons (sep text : String) (texts : List String) :
    joinWith sep (text :: texts) =
      text ++ (if texts.isEmpty then "" else sep) ++ joinWith sep texts := by
  cases texts with
  | nil => simp [joinWith]
  | cons next rest => simp [joinWith]

theorem contains_joinWith {sep text : String} {texts : List String} (h : text ∈ texts) :
    Contains (joinWith sep texts) text := by
  induction texts with
  | nil => cases h
  | cons first rest ih =>
    rw [joinWith_cons]
    rcases List.mem_cons.mp h with rfl | hrest
    · exact ((Contains.refl text).append_right _).append_right _
    · exact (ih hrest).append_left _

end Text

/-! ### Texts in lines -/

namespace Source

/-- `part` stands in one of the lines. -/
def Holds (lines : List String) (part : String) : Prop := ∃ line ∈ lines, Text.Contains line part

namespace Holds

variable {lines : List String} {part : String}

theorem of_mem {line : String} (h : line ∈ lines) : Holds lines line :=
  ⟨line, h, Text.Contains.refl line⟩

theorem append_left (h : Holds lines part) (others : List String) :
    Holds (others ++ lines) part := by
  obtain ⟨line, hmem, hline⟩ := h
  exact ⟨line, List.mem_append_right others hmem, hline⟩

theorem append_right (h : Holds lines part) (others : List String) :
    Holds (lines ++ others) part := by
  obtain ⟨line, hmem, hline⟩ := h
  exact ⟨line, List.mem_append_left others hmem, hline⟩

theorem indent (h : Holds lines part) : Holds (indent lines) part := by
  obtain ⟨line, hmem, hline⟩ := h
  refine ⟨_, List.mem_map_of_mem hmem, ?_⟩
  -- an empty line is not moved
  by_cases hempty : line.isEmpty = true
  · rw [if_pos hempty]
    exact hline
  · rw [if_neg hempty]
    exact hline.append_left "    "

theorem block (h : Holds lines part) (header : List String) : Holds (block header lines) part :=
  (h.indent.append_left _).append_right _

theorem spaced {group : List String} {groups : List (List String)} (h : Holds group part)
    (hgroup : group ∈ groups) : Holds (spaced groups) part := by
  induction groups with
  | nil => cases hgroup
  | cons first rest ih =>
    cases rest with
    | nil =>
      rw [List.mem_singleton] at hgroup
      exact hgroup ▸ h
    | cons next rest =>
      rcases List.mem_cons.mp hgroup with rfl | hrest
      · exact (h.append_right _).append_right _
      · exact (ih hrest).append_left _

theorem text (h : Holds lines part) : Text.Contains (text lines) part := by
  obtain ⟨line, hmem, hline⟩ := h
  exact (Text.contains_joinWith hmem).trans hline

theorem members (h : Holds lines part) : Text.Contains (members lines) part := h.indent.text

end Holds

end Source

/-! ### Texts in files -/

/-- The members of the class stand in the file. -/
theorem SourceFile.contains_body (f : SourceFile) : Text.Contains f.render f.body := by
  unfold render
  by_cases hempty : f.body.isEmpty = true
  · have hbody : f.body = "" := String.isEmpty_iff.mp hempty
    exact ⟨_, "", by rw [hbody, String.append_empty, String.append_empty]⟩
  · rw [if_neg hempty]
    exact (((Text.Contains.refl f.body).append_right "\n").append_left _).append_right _

end Scaffold
