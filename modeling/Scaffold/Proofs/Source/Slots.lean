/-
  Scaffold/Proofs/Source/Slots.lean
  =================================
  **Code that is written around a given text.**

  Most of what a template writes is made of names, which are checked. Where it takes over a text as
  that was given, it does so in one place: what stands in front and behind is the same for every such
  text (`Text.Slot`). Lines keep their slot when they are moved, put between braces and joined
  (`Source.Slot.block`, `Source.Slot.members`), so that the rest of a file can be looked at with the
  slot left empty: the rest may be nested whatever was given (`Text.NestedAround`).
-/
import Scaffold.Proofs.Source.Brackets
import Scaffold.Proofs.Source.Contents

namespace Scaffold

/-- `write` puts its argument between two fixed texts. -/
def Text.Slot (write : String → String) : Prop :=
  ∃ before after, ∀ given, write given = before ++ given ++ after

namespace Text.Slot

variable {write : String → String}

theorem append_left (h : Slot write) (other : String) : Slot fun given => other ++ write given := by
  obtain ⟨before, after, hwrite⟩ := h
  refine ⟨other ++ before, after, ?_⟩
  intro given
  simp only [hwrite, String.append_assoc]

theorem append_right (h : Slot write) (other : String) : Slot fun given => write given ++ other := by
  obtain ⟨before, after, hwrite⟩ := h
  refine ⟨before, after ++ other, ?_⟩
  intro given
  simp only [hwrite, String.append_assoc]

theorem joinWith (h : Slot write) (sep : String) (texts others : List String) :
    Slot fun given => joinWith sep (texts ++ write given :: others) := by
  induction texts with
  | nil =>
    simp only [List.nil_append, joinWith_cons]
    exact (h.append_right _).append_right _
  | cons first rest ih =>
    have hrest : ∀ given, (rest ++ write given :: others).isEmpty = false := by
      intro given
      simp
    simp only [List.cons_append, joinWith_cons, hrest]
    exact ih.append_left _

end Text.Slot

namespace Source

/-- `write` puts its argument into one line, in which there is something else, among fixed lines. -/
def Slot (write : String → List String) : Prop :=
  ∃ above before after below, before ≠ "" ∧
    ∀ given, write given = above ++ (before ++ given ++ after) :: below

namespace Slot

variable {write : String → List String}

theorem of_line {before : String} (h : before ≠ "") (above : List String) (after : String)
    (below : List String) : Slot fun given => above ++ (before ++ given ++ after) :: below :=
  ⟨above, before, after, below, h, fun _ => rfl⟩

theorem append_left (h : Slot write) (lines : List String) :
    Slot fun given => lines ++ write given := by
  obtain ⟨above, before, after, below, hbefore, hwrite⟩ := h
  refine ⟨lines ++ above, before, after, below, hbefore, ?_⟩
  intro given
  simp only [hwrite, List.append_assoc]

theorem append_right (h : Slot write) (lines : List String) :
    Slot fun given => write given ++ lines := by
  obtain ⟨above, before, after, below, hbefore, hwrite⟩ := h
  refine ⟨above, before, after, below ++ lines, hbefore, ?_⟩
  intro given
  simp only [hwrite, List.append_assoc, List.cons_append]

theorem indent (h : Slot write) : Slot fun given => indent (write given) := by
  obtain ⟨above, before, after, below, hbefore, hwrite⟩ := h
  refine ⟨Source.indent above, "    " ++ before, after, Source.indent below, ?_, ?_⟩
  · intro hempty
    exact hbefore (String.append_eq_empty_iff.mp hempty).2
  · intro given
    -- the line is moved, since it is not empty whatever is put into it
    have hline : (before ++ given ++ after).isEmpty = false := by
      refine Bool.eq_false_iff.mpr ?_
      intro hempty
      have hparts := String.append_eq_empty_iff.mp (String.isEmpty_iff.mp hempty)
      exact hbefore (String.append_eq_empty_iff.mp hparts.1).1
    simp only [hwrite, Source.indent, List.map_append, List.map_cons]
    rw [if_neg (Bool.eq_false_iff.mp hline)]
    simp only [String.append_assoc]

theorem block (h : Slot write) (header : List String) : Slot fun given => block header (write given) :=
  (h.indent.append_left _).append_right _

theorem spaced (h : Slot write) (groups others : List (List String)) :
    Slot fun given => spaced (groups ++ write given :: others) := by
  induction groups with
  | nil =>
    cases others with
    | nil => exact h
    | cons next rest => exact (h.append_right _).append_right _
  | cons first rest ih =>
    cases rest with
    | nil => exact ih.append_left _
    | cons next rest => exact ih.append_left _

theorem members (h : Slot write) : Text.Slot fun given => members (write given) := by
  obtain ⟨above, before, after, below, -, hwrite⟩ := h.indent
  have hline : Text.Slot fun given => before ++ given ++ after := ⟨before, after, fun _ => rfl⟩
  obtain ⟨front, back, hjoin⟩ := hline.joinWith "\n" above below
  refine ⟨front, back, ?_⟩
  intro given
  have hindent : Source.indent (write given) = above ++ (before ++ given ++ after) :: below :=
    hwrite given
  simp only [Source.members, Source.text, hindent]
  exact hjoin given

end Slot

end Source

/-! ### What stands around -/

/-- `given` stands in the text, and the rest of the text is nested. -/
def Text.NestedAround (text given : String) : Prop :=
  ∃ before after, text = before ++ given ++ after ∧ Bracket.Nested (brackets (before ++ after))

namespace Text.NestedAround

variable {text given other : String}

theorem of_nested (h : Bracket.Nested (brackets text)) : NestedAround text "" :=
  ⟨text, "", by simp only [String.append_empty], by rwa [String.append_empty]⟩

theorem of_slot {write : String → String} (h : Slot write)
    (hrest : Bracket.Nested (brackets (write ""))) (given : String) :
    NestedAround (write given) given := by
  obtain ⟨before, after, hwrite⟩ := h
  rw [hwrite, String.append_empty] at hrest
  exact ⟨before, after, hwrite given, hrest⟩

theorem append_left (h : NestedAround text given) (hother : Bracket.Nested (brackets other)) :
    NestedAround (other ++ text) given := by
  obtain ⟨before, after, rfl, hrest⟩ := h
  refine ⟨other ++ before, after, by simp only [String.append_assoc], ?_⟩
  rw [String.append_assoc, brackets_append]
  exact hother.append hrest

theorem append_right (h : NestedAround text given) (hother : Bracket.Nested (brackets other)) :
    NestedAround (text ++ other) given := by
  obtain ⟨before, after, rfl, hrest⟩ := h
  refine ⟨before, after ++ other, by simp only [String.append_assoc], ?_⟩
  rw [← String.append_assoc, brackets_append]
  exact hrest.append hother

/-- Where the given text is nested too, the whole is. -/
theorem nested (h : NestedAround text given) (hgiven : Bracket.Nested (brackets given)) :
    Bracket.Nested (brackets text) := by
  obtain ⟨before, after, rfl, hrest⟩ := h
  rw [brackets_append] at hrest
  rw [brackets_append, brackets_append]
  exact hrest.insert hgiven

end Text.NestedAround

/-- The members of a file, with the line ends around them. -/
theorem SourceFile.nestedAround_memberLines {f : SourceFile} {given : String}
    (h : Text.NestedAround f.body given) : Text.NestedAround f.memberLines given := by
  have hline : Bracket.Nested (Text.brackets "\n") := Bracket.Nested.nil
  unfold memberLines
  split
  · rename_i hempty
    have hnone : f.body = "" := String.isEmpty_iff.mp hempty
    rw [hnone] at h
    exact h.append_left hline
  · exact (h.append_right hline).append_left hline

end Scaffold
