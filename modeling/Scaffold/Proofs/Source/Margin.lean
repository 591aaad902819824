/-
  Scaffold/Proofs/Source/Margin.lean
  ==================================
  **Where the lines of a file begin.**

  A text is read line by line, its lines being the parts between line feeds. Most of what a template
  writes for one line is one line (`Text.isLine`); where it goes on behind a line feed, it goes on
  with a blank (`Text.Hanging`). Members of a class are moved to the right, so none of their lines
  begins at the margin (`Source.Hanging.members`), and what stands at the margin of a file is its
  namespace, its imports, its declaration and its braces (`SourceFile.everyLine_render`).
-/
import Scaffold.Proofs.Name.Composite
import Scaffold.Proofs.Source.Brackets
import Scaffold.Proofs.Text.Splitting

namespace Scaffold

/-! ### Texts line by line -/

namespace Text

/-- Every line of the text satisfies `P`. -/
def EveryLine (P : String → Prop) (text : String) : Prop := ∀ line ∈ splitOn '\n' text, P line

/-- Whether the text is one line. -/
def isLine (s : String) : Bool := s.toList.all (· != '\n')

/-- The lines of the text after the first begin with a blank. -/
inductive Hanging : String → Prop
  | line {s : String} (one : isLine s = true) : Hanging s
  | goesOn {s t : String} (hanging : Hanging s) (one : isLine t = true) : Hanging (s ++ "\n " ++ t)

variable {P : String → Prop} {s t : String}

@[simp] theorem isLine_append (s t : String) : isLine (s ++ t) = (isLine s && isLine t) := by
  simp only [isLine, String.toList_append, List.all_append]

/-- A literal is the text of its characters, which is faster to read than its bytes. -/
theorem isLine_ofList (cs : List Char) : isLine (String.ofList cs) = cs.all (· != '\n') := by
  rw [isLine, String.toList_ofList]

theorem isLine_joinWith {sep : String} (hsep : isLine sep = true) {texts : List String}
    (h : ∀ text ∈ texts, isLine text = true) : isLine (joinWith sep texts) = true := by
  have hbreak : ∀ text : String, isLine text = true → '\n' ∉ text.toList := fun text htext hmem =>
    absurd (List.all_eq_true.mp htext '\n' hmem) (by decide)
  refine List.all_eq_true.mpr ?_
  rintro c hc
  refine bne_iff_ne.mpr ?_
  rintro rfl
  rcases mem_joinWith hc with hmem | ⟨text, htext, hmem⟩
  · exact hbreak sep hsep hmem
  · exact hbreak text (h text htext) hmem

theorem everyLine_append : EveryLine P (s ++ "\n" ++ t) ↔ EveryLine P s ∧ EveryLine P t := by
  have hbreak : "\n".toList = ['\n'] := rfl
  unfold EveryLine
  rw [splitOn_append hbreak, List.forall_mem_append]

namespace EveryLine

theorem of_isLine (h : isLine s = true) (hs : P s) : EveryLine P s := by
  have hbreak : '\n' ∉ s.toList := fun hmem =>
    absurd (List.all_eq_true.mp h '\n' hmem) (by decide)
  unfold EveryLine
  rw [splitOn_of_not_mem hbreak]
  exact List.forall_mem_singleton.mpr hs

theorem append (hs : EveryLine P s) (ht : EveryLine P t) : EveryLine P (s ++ "\n" ++ t) :=
  everyLine_append.mpr ⟨hs, ht⟩

theorem joinWith (hempty : P "") {texts : List String} (h : ∀ text ∈ texts, EveryLine P text) :
    EveryLine P (joinWith "\n" texts) := by
  induction texts with
  | nil => exact of_isLine rfl hempty
  | cons first rest ih =>
    have hfirst : EveryLine P first := h first List.mem_cons_self
    cases rest with
    | nil => exact hfirst
    | cons next rest => exact hfirst.append (ih fun text htext => h text (.tail first htext))

/-- Texts with an empty line between neighbours. -/
theorem joinWith_blank (hempty : P "") {texts : List String}
    (h : ∀ text ∈ texts, EveryLine P text) : EveryLine P (Text.joinWith "\n\n" texts) := by
  have hglue : ∀ rest, "\n\n" ++ rest = "\n" ++ ("" ++ "\n" ++ rest) := fun rest => by
    rw [String.empty_append, ← String.append_assoc]
    rfl
  induction texts with
  | nil => exact of_isLine rfl hempty
  | cons first rest ih =>
    have hfirst : EveryLine P first := h first List.mem_cons_self
    cases rest with
    | nil => exact hfirst
    | cons next rest =>
      have hrest := (of_isLine rfl hempty).append (ih fun text htext => h text (.tail first htext))
      rw [Text.joinWith, String.append_assoc, hglue, ← String.append_assoc]
      exact hfirst.append hrest

/-- Lines that each end with a line feed, and what follows them. -/
theorem endLines {lines : List String} (h : ∀ line ∈ lines, EveryLine P line)
    (ht : EveryLine P t) : EveryLine P (endLines lines ++ t) := by
  induction lines with
  | nil =>
    have hempty : Text.endLines [] ++ t = t := String.empty_append
    rwa [hempty]
  | cons line lines ih =>
    have hcons : Text.endLines (line :: lines) = line ++ "\n" ++ Text.endLines lines :=
      String.join_cons
    rw [hcons, String.append_assoc]
    exact (h line List.mem_cons_self).append (ih fun other hother => h other (.tail line hother))

end EveryLine

namespace Hanging

theorem append (h : Hanging s) (ht : Hanging t) : Hanging (s ++ t) := by
  induction ht with
  | @line t one =>
    cases h with
    | line hs => exact .line (by rw [isLine_append, hs, one, Bool.and_self])
    | goesOn hanging hs =>
      rw [String.append_assoc]
      exact .goesOn hanging (by rw [isLine_append, hs, one, Bool.and_self])
  | goesOn _ one ih =>
    rw [← String.append_assoc, ← String.append_assoc]
    exact .goesOn ih one

theorem join {texts : List String} (h : ∀ text ∈ texts, Hanging text) :
    Hanging (String.join texts) := by
  induction texts with
  | nil => exact .line rfl
  | cons first rest ih =>
    rw [String.join_cons]
    exact (h first List.mem_cons_self).append (ih fun text htext => h text (.tail first htext))

end Hanging

end Text

theorem Name.isLine_of_isPart {s : String} (h : ∀ c ∈ s.toList, isPart c = true ∨ c = '@') :
    Text.isLine s = true := by
  refine List.all_eq_true.mpr ?_
  intro c hc
  refine bne_iff_ne.mpr ?_
  rintro rfl
  exact absurd (h '\n' hc) (by decide)

theorem Name.isLine_of_isIdentifier {name : String} (h : isIdentifier name = true) :
    Text.isLine name = true :=
  isLine_of_isPart fun c hc => .inl (isPart_of_mem h c hc)

theorem Name.isLine_of_isDotted {name : String} (h : isDotted name = true) :
    Text.isLine name = true := by
  refine List.all_eq_true.mpr ?_
  intro c hc
  refine bne_iff_ne.mpr ?_
  rintro rfl
  exact absurd (isPart_or_dot h hc) (by decide)

/-! ### Lines that a template writes -/

namespace Source

/-- Whether each of the lines is one line. -/
def areLines (lines : List String) : Bool := lines.all Text.isLine

@[simp] theorem areLines_nil : areLines [] = true := rfl

@[simp] theorem areLines_cons (line : String) (lines : List String) :
    areLines (line :: lines) = (Text.isLine line && areLines lines) := rfl

@[simp] theorem areLines_append (lines others : List String) :
    areLines (lines ++ others) = (areLines lines && areLines others) := List.all_append

@[simp] theorem areLines_indent (lines : List String) : areLines (indent lines) = areLines lines := by
  have hline : ∀ line : String, Text.isLine (if line.isEmpty then line else "    " ++ line) =
      Text.isLine line := by
    intro line
    split
    · rfl
    · rw [Text.isLine_append]
      rfl
  simp only [areLines, indent, List.all_map, Function.comp_def, hline]

@[simp] theorem areLines_block (header body : List String) :
    areLines (block header body) = (areLines header && areLines body) := by
  have hopen : Text.isLine "\x7b" = true := rfl
  have hclose : Text.isLine "\x7d" = true := rfl
  simp only [block, areLines_append, areLines_cons, areLines_nil, areLines_indent, hopen, hclose,
    Bool.and_true]

@[simp] theorem areLines_spaced (groups : List (List String)) :
    areLines (spaced groups) = groups.all areLines := by
  induction groups with
  | nil => rfl
  | cons first rest ih =>
    cases rest with
    | nil => simp [spaced]
    | cons next rest =>
      have hblank : Text.isLine "" = true := rfl
      rw [spaced, areLines_append, areLines_append, areLines_cons, areLines_nil, hblank, ih]
      simp

/-- Of each of the lines, what follows a line feed begins with a blank. -/
def Hanging (lines : List String) : Prop := ∀ line ∈ lines, Text.Hanging line

namespace Hanging

variable {lines others header body : List String}

theorem of_areLines (h : areLines lines = true) : Hanging lines := fun line hline =>
  .line (List.all_eq_true.mp h line hline)

theorem append (h : Hanging lines) (hothers : Hanging others) : Hanging (lines ++ others) :=
  List.forall_mem_append.mpr ⟨h, hothers⟩

theorem indent (h : Hanging lines) : Hanging (indent lines) := by
  intro line hline
  obtain ⟨given, hgiven, rfl⟩ := List.mem_map.mp hline
  split
  · exact h given hgiven
  · exact .append (.line rfl) (h given hgiven)

theorem block (hheader : Hanging header) (hbody : Hanging body) : Hanging (block header body) :=
  (hheader.append (of_areLines rfl)).append hbody.indent |>.append (of_areLines rfl)

theorem spaced {groups : List (List String)} (h : ∀ group ∈ groups, Hanging group) :
    Hanging (spaced groups) := by
  induction groups with
  | nil => exact of_areLines rfl
  | cons first rest ih =>
    have hfirst : Hanging first := h first List.mem_cons_self
    cases rest with
    | nil => exact hfirst
    | cons next rest =>
      exact (hfirst.append (of_areLines rfl)).append (ih fun group hgroup => h group (.tail first hgroup))

end Hanging

/-- The line does not begin at the margin. -/
def IsInner (line : String) : Prop := line = "" ∨ ∃ rest, line = " " ++ rest

theorem everyLine_indented {s : String} (h : Text.Hanging s) :
    Text.EveryLine IsInner ("    " ++ s) := by
  have hinner : ∀ t : String, IsInner (" " ++ t) := fun t => .inr ⟨t, rfl⟩
  induction h with
  | @line s one =>
    refine .of_isLine (by rw [Text.isLine_append, one]; rfl) ?_
    have hfour : "    " = " " ++ "   " := rfl
    rw [hfour, String.append_assoc]
    exact hinner _
  | @goesOn s t _ one ih =>
    have hsplit : "    " ++ (s ++ "\n " ++ t) = "    " ++ s ++ "\n" ++ (" " ++ t) := by
      have hbreak : "\n " = "\n" ++ " " := rfl
      simp only [hbreak, String.append_assoc]
    rw [hsplit]
    exact ih.append (.of_isLine (by rw [Text.isLine_append, one]; rfl) (hinner t))

/-- **No member of a class begins at the margin.** -/
theorem Hanging.members {lines : List String} (h : Hanging lines) :
    Text.EveryLine IsInner (members lines) := by
  refine .joinWith (.inl rfl) ?_
  intro line hline
  obtain ⟨given, hgiven, rfl⟩ := List.mem_map.mp hline
  split
  · rename_i hempty
    rw [String.isEmpty_iff.mp hempty]
    exact .of_isLine rfl (.inl rfl)
  · exact everyLine_indented (h given hgiven)

end Source

/-! ### Whole files -/

namespace SourceFile

/-- The line that opens the braces, the members, and what closes them. -/
def classLines (f : SourceFile) : String :=
  "\x7b" ++ "\n" ++ ((if f.body.isEmpty then "" else f.body ++ "\n") ++ "\x7d\n")

theorem render_eq_lines (f : SourceFile) :
    f.render = "namespace " ++ f.nameSpace ++ ";" ++ "\n" ++ ("" ++ "\n" ++
      (importLines f.imports ++ (f.declaration ++ "\n" ++ f.classLines))) := by
  have hspace : ";\n\n" = ";" ++ ("\n" ++ "\n") := rfl
  have hopen : "\n\x7b\n" = "\n" ++ ("\x7b" ++ "\n") := rfl
  unfold render classLines
  rw [hspace, hopen]
  simp only [String.append_assoc, String.empty_append]

/-- The lines of a file are those of its parts. -/
theorem everyLine_render {P : String → Prop} (f : SourceFile)
    (hspace : Text.EveryLine P ("namespace " ++ f.nameSpace ++ ";"))
    (himports : ∀ name ∈ f.imports, Text.EveryLine P ("using " ++ name ++ ";"))
    (hdeclaration : Text.EveryLine P f.declaration) (hbody : Text.EveryLine P f.body)
    (hempty : P "") (hopen : P "\x7b") (hclose : P "\x7d") : Text.EveryLine P f.render := by
  have hblank : Text.EveryLine P "" := .of_isLine rfl hempty
  have hlast : Text.EveryLine P "\x7d\n" := .append (.of_isLine rfl hclose) hblank
  have hclass : Text.EveryLine P f.classLines := by
    refine .append (.of_isLine rfl hopen) ?_
    split
    · exact hlast
    · exact hbody.append hlast
  have hbelow : Text.EveryLine P (f.declaration ++ "\n" ++ f.classLines) :=
    hdeclaration.append hclass
  rw [render_eq_lines]
  refine hspace.append (hblank.append ?_)
  unfold importLines
  split
  · exact hbelow
  · rw [String.append_assoc]
    refine .endLines ?_ (hblank.append hbelow)
    intro line hline
    obtain ⟨name, hname, rfl⟩ := List.mem_map.mp hline
    exact himports name hname

end SourceFile

end Scaffold
