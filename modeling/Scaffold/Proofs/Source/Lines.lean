/-
  Scaffold/Proofs/Source/Lines.lean
  =================================
  **Lines as one text.**

  Lines that each end with a line feed can be cut anywhere: the text of lines behind one another is
  the texts behind one another (`Text.endLines_append`). The last of several lines has no line feed,
  so a text is cut at one of its lines into lines that end with one and lines that start with one
  (`Source.text_append_cons`).
-/
import Scaffold.Proofs.Source.Contents

namespace Scaffold

namespace Text

theorem append_ne_empty_left {s : String} (h : s ≠ "") (t : String) : s ++ t ≠ "" :=
  fun hempty => h (String.append_eq_empty_iff.mp hempty).1

theorem append_ne_empty_right {t : String} (h : t ≠ "") (s : String) : s ++ t ≠ "" :=
  fun hempty => h (String.append_eq_empty_iff.mp hempty).2

theorem endLines_cons (line : String) (lines : List String) :
    endLines (line :: lines) = line ++ "\n" ++ endLines lines := String.join_cons

theorem endLines_append (lines others : List String) :
    endLines (lines ++ others) = endLines lines ++ endLines others := by
  rw [endLines, List.map_append, String.join_append]
  rfl

end Text

namespace Source

open Text (endLines)

/-- A line feed in front of every line. -/
def startLines (lines : List String) : String := String.join (lines.map ("\n" ++ ·))

theorem startLines_cons (line : String) (lines : List String) :
    startLines (line :: lines) = "\n" ++ line ++ startLines lines := String.join_cons

theorem startLines_append (lines others : List String) :
    startLines (lines ++ others) = startLines lines ++ startLines others := by
  rw [startLines, List.map_append, String.join_append]
  rfl

theorem text_cons (line : String) (lines : List String) :
    text (line :: lines) = line ++ startLines lines := by
  unfold text startLines
  induction lines generalizing line with
  | nil => exact String.append_empty.symm
  | cons next lines ih =>
    rw [Text.joinWith, ih, List.map_cons, String.join_cons]
    simp only [String.append_assoc]

theorem text_append_cons (above : List String) (line : String) (below : List String) :
    text (above ++ line :: below) = endLines above ++ line ++ startLines below := by
  induction above with
  | nil =>
    have hempty : endLines [] = "" := rfl
    rw [List.nil_append, text_cons, hempty, String.empty_append]
  | cons first above ih =>
    obtain ⟨next, rest, hrest⟩ := List.exists_cons_of_ne_nil
      (List.append_ne_nil_of_right_ne_nil above (List.cons_ne_nil line below))
    have hfirst : text (first :: next :: rest) = first ++ "\n" ++ text (next :: rest) := rfl
    rw [List.cons_append, hrest, hfirst, ← hrest, ih, Text.endLines_cons]
    simp only [String.append_assoc]

theorem endLines_eq {lines : List String} (h : lines ≠ []) : endLines lines = text lines ++ "\n" := by
  obtain ⟨front, last, rfl⟩ := (List.eq_nil_or_concat lines).resolve_left h
  have hlast : endLines [last] = last ++ "\n" :=
    (Text.endLines_cons last []).trans String.append_empty
  have hstart : startLines [] = "" := rfl
  rw [List.concat_eq_append, text_append_cons, Text.endLines_append, hlast, hstart, String.append_empty,
    String.append_assoc]

/-- Members that are not empty, with the line feed after the last of their lines. -/
theorem endLines_indent {lines : List String} (h : members lines ≠ "") :
    endLines (indent lines) = members lines ++ "\n" := by
  refine endLines_eq ?_
  intro hnil
  rw [members, hnil] at h
  exact h rfl

/-! ### Lines moved to the right -/

theorem indent_append (lines others : List String) :
    indent (lines ++ others) = indent lines ++ indent others := List.map_append

theorem indent_cons {line : String} (h : line ≠ "") (lines : List String) :
    indent (line :: lines) = ("    " ++ line) :: indent lines := by
  have hline : (if line.isEmpty then line else "    " ++ line) = "    " ++ line :=
    if_neg (mt String.isEmpty_iff.mp h)
  rw [indent, List.map_cons, hline]
  rfl

theorem indent_twice_cons {line : String} (h : line ≠ "") (above below : List String) :
    indent (indent (above ++ line :: below) ++ ["\x7d"]) =
      indent (indent above) ++ ("        " ++ line) :: indent (indent below ++ ["\x7d"]) := by
  have hmoved : "    " ++ line ≠ "" := Text.append_ne_empty_right h "    "
  have htwice : "        " ++ line = "    " ++ ("    " ++ line) := by
    rw [← String.append_assoc]
    rfl
  rw [indent_append above, indent_cons h, List.append_assoc, List.cons_append,
    indent_append (indent above), indent_cons hmoved, htwice]

/-- Members put between braces, cut at one of their lines. -/
theorem members_block (header above : List String) {line : String} (h : line ≠ "")
    (below : List String) :
    members (block header (above ++ line :: below)) =
      endLines (indent (header ++ ["\x7b"] ++ indent above)) ++ ("        " ++ line) ++
        startLines (indent (indent below ++ ["\x7d"])) := by
  rw [members, block, List.append_assoc (header ++ _), indent_append (header ++ _),
    indent_twice_cons h, ← List.append_assoc, ← indent_append, text_append_cons]

/-- Lines behind one that is moved, cut at one of them. -/
theorem startLines_indent_twice {line : String} (h : line ≠ "") (above below : List String) :
    startLines (indent (indent (above ++ line :: below) ++ ["\x7d"])) =
      startLines (indent (indent above)) ++ ("\n        " ++ line ++
        startLines (indent (indent below ++ ["\x7d"]))) := by
  have hbreak : "\n        " = "\n" ++ "        " := rfl
  rw [indent_twice_cons h, startLines_append, startLines_cons, hbreak]
  simp only [String.append_assoc]

/-! ### The characters of lines -/

/-- The characters of a literal, looked at one by one. -/
theorem forall_mem_of_all {P : Char → Prop} [DecidablePred P] {cs : List Char}
    (h : (cs.all fun c => decide (P c)) = true) : ∀ c ∈ cs, P c := fun c hc =>
  of_decide_eq_true (List.all_eq_true.mp h c hc)

theorem forall_mem_indent {P : Char → Prop} (hblank : P ' ') {lines : List String}
    (h : ∀ line ∈ lines, ∀ c ∈ line.toList, P c) :
    ∀ line ∈ indent lines, ∀ c ∈ line.toList, P c := by
  intro line hline
  obtain ⟨given, hgiven, rfl⟩ := List.mem_map.mp hline
  have hspaces : ∀ c ∈ "    ".toList, P c := by
    intro c hc
    rw [List.eq_of_mem_replicate (n := 4) hc]
    exact hblank
  split
  · exact h given hgiven
  · rw [String.toList_append, List.forall_mem_append]
    exact ⟨hspaces, h given hgiven⟩

theorem forall_mem_endLines {P : Char → Prop} (hbreak : P '\n') {lines : List String}
    (h : ∀ line ∈ lines, ∀ c ∈ line.toList, P c) : ∀ c ∈ (endLines lines).toList, P c := by
  induction lines with
  | nil => exact List.forall_mem_nil _
  | cons line lines ih =>
    rw [Text.endLines_cons, String.toList_append, String.toList_append, List.forall_mem_append,
      List.forall_mem_append]
    refine ⟨⟨h line List.mem_cons_self, ?_⟩, ih fun other hother => h other (.tail line hother)⟩
    intro c hc
    rw [List.mem_singleton.mp hc]
    exact hbreak

theorem Holds.endLines {lines : List String} {part : String} (h : Holds lines part) :
    Text.Contains (endLines lines) part := by
  obtain ⟨line, hmem, hline⟩ := h
  obtain ⟨above, below, rfl⟩ := List.append_of_mem hmem
  rw [Text.endLines_append, Text.endLines_cons]
  exact ((hline.append_right _).append_right _).append_left _

/-- Behind a line feed, every line has one on either side. -/
theorem contains_line {line : String} {lines : List String} (h : line ∈ lines) :
    Text.Contains ("\n" ++ endLines lines) ("\n" ++ line ++ "\n") := by
  induction lines with
  | nil => cases h
  | cons first rest ih =>
    rw [Text.endLines_cons]
    rcases List.mem_cons.mp h with rfl | hrest
    · refine ⟨"", endLines rest, ?_⟩
      simp only [String.append_assoc, String.empty_append]
    · have hbehind := (ih hrest).append_left ("\n" ++ first)
      simp only [String.append_assoc] at hbehind ⊢
      exact hbehind

/-! ### Groups of lines -/

/-- The groups with a blank line in front of each. -/
def spacedBehind (groups : List (List String)) : List String := groups.flatMap ("" :: ·)

theorem spaced_cons (group : List String) (groups : List (List String)) :
    spaced (group :: groups) = group ++ spacedBehind groups := by
  induction groups generalizing group with
  | nil => exact (List.append_nil group).symm
  | cons next rest ih =>
    rw [spaced, ih, List.append_assoc]
    rfl

end Source

end Scaffold
