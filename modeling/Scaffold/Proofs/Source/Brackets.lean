/-
  Scaffold/Proofs/Source/Brackets.lean
  ====================================
  **Brackets in generated code.**

  Of a text only its brackets count for its nesting, and the brackets of joined texts are the joined
  brackets. So a template, whose names have no bracket, comes down to a short list of characters
  that can be read by evaluation, whatever the names are. Lists that are nested may be put after one
  another and into one another (`Nested.append`, `Nested.between`).

  What stands outside of the braces of a file is its outline (`Source.outline`). Members that are
  nested do not show in it.
-/
import Scaffold.Proofs.Name.Composite
import Scaffold.Source.Block
import Scaffold.Source.File

namespace Scaffold

/-! ### Reading brackets -/

namespace Bracket

/-- The bracket that closes an opening one. -/
def closing? : Char → Option Char
  | '(' => some ')'
  | '[' => some ']'
  | '\x7b' => some '\x7d'
  | _ => none

def isClosing (c : Char) : Bool := c == ')' || c == ']' || c == '\x7d'

def isBracket (c : Char) : Bool := (closing? c).isSome || isClosing c

/-- The closing brackets that are awaited after one more character, the next one first; nothing when
the character closes what is not open. -/
def step (awaited : List Char) (c : Char) : Option (List Char) :=
  match closing? c with
  | some close => some (close :: awaited)
  | none =>
    if isClosing c then
      match awaited with
      | next :: awaited => if c = next then some awaited else none
      | [] => none
    else some awaited

/-- Every bracket is closed, in the reverse of the order in which they are opened. -/
def Nested (cs : List Char) : Prop := cs.foldlM step [] = some []

instance (cs : List Char) : Decidable (Nested cs) :=
  inferInstanceAs (Decidable (cs.foldlM step [] = some []))

variable {awaited after below : List Char} {c close : Char}

theorem isClosing_of_closing? (h : closing? c = some close) : isClosing close = true := by
  unfold closing? at h
  split at h <;> cases h <;> rfl

theorem closing?_of_isClosing (h : isClosing c = true) : closing? c = none := by
  simp only [isClosing, Bool.or_eq_true, beq_iff_eq] at h
  rcases h with (rfl | rfl) | rfl <;> rfl

theorem step_of_closing? (h : closing? c = some close) :
    step awaited c = some (close :: awaited) := by
  simp only [step, h]

theorem step_of_isClosing (h : isClosing c = true) : step (c :: awaited) c = some awaited := by
  simp only [step, closing?_of_isClosing h, h, if_true]

theorem step_of_not_isBracket (h : isBracket c = false) : step awaited c = some awaited := by
  obtain ⟨hopen, hclose⟩ := Bool.or_eq_false_iff.mp h
  have hnone : closing? c = none := by simpa using hopen
  simp only [step, hnone, hclose, Bool.false_eq_true, if_false]

theorem not_brace_of_not_isBracket (h : isBracket c = false) : c ≠ '\x7b' ∧ c ≠ '\x7d' := by
  constructor
  · rintro rfl
    cases h
  · rintro rfl
    cases h

/-- All that a character can do. -/
theorem step_cases (h : step awaited c = some after) :
    (∃ close, closing? c = some close ∧ after = close :: awaited) ∨
      (isClosing c = true ∧ awaited = c :: after) ∨ (isBracket c = false ∧ after = awaited) := by
  cases hopen : closing? c with
  | some close =>
    rw [step_of_closing? hopen, Option.some.injEq] at h
    exact .inl ⟨close, rfl, h.symm⟩
  | none =>
    cases hclose : isClosing c with
    | false =>
      have hplain : isBracket c = false := by simp [isBracket, hopen, hclose]
      rw [step_of_not_isBracket hplain, Option.some.injEq] at h
      exact .inr (.inr ⟨hplain, h.symm⟩)
    | true =>
      simp only [step, hopen, hclose, if_true] at h
      cases awaited with
      | nil => cases h
      | cons next awaited =>
        dsimp only at h
        by_cases hnext : c = next
        · rw [if_pos hnext, Option.some.injEq] at h
          exact .inr (.inl ⟨rfl, by rw [h, hnext]⟩)
        · rw [if_neg hnext] at h
          cases h

/-- A character does not look below the brackets that it closes. -/
theorem step_append (h : step awaited c = some after) :
    step (awaited ++ below) c = some (after ++ below) := by
  rcases step_cases h with ⟨close, hopen, rfl⟩ | ⟨hclose, rfl⟩ | ⟨hplain, rfl⟩
  · exact step_of_closing? hopen
  · exact step_of_isClosing hclose
  · exact step_of_not_isBracket hplain

theorem foldlM_append {cs : List Char} (h : cs.foldlM step awaited = some after) :
    cs.foldlM step (awaited ++ below) = some (after ++ below) := by
  induction cs generalizing awaited with
  | nil =>
    rw [List.foldlM_nil, Option.pure_def, Option.some.injEq] at h
    rw [h]
    rfl
  | cons c cs ih =>
    rw [List.foldlM_cons] at h ⊢
    obtain ⟨next, hstep, hrest⟩ := Option.bind_eq_some_iff.mp h
    rw [step_append hstep]
    exact ih hrest

namespace Nested

variable {cs rest : List Char}

theorem foldlM (h : Nested cs) (awaited : List Char) : cs.foldlM step awaited = some awaited := by
  change cs.foldlM step ([] ++ awaited) = some ([] ++ awaited)
  exact foldlM_append h

theorem nil : Nested [] := rfl

theorem append (h : Nested cs) (hrest : Nested rest) : Nested (cs ++ rest) := by
  unfold Nested
  rw [List.foldlM_append, h.foldlM]
  exact hrest

/-- What is nested can be put anywhere. -/
theorem insert {before after : List Char} (h : Nested (before ++ after)) (hcs : Nested cs) :
    Nested (before ++ cs ++ after) := by
  unfold Nested at h
  rw [List.foldlM_append] at h
  obtain ⟨awaited, hbefore, hafter⟩ := Option.bind_eq_some_iff.mp h
  unfold Nested
  rw [List.foldlM_append, List.foldlM_append, hbefore, Option.bind_eq_bind, Option.bind_some,
    hcs.foldlM]
  exact hafter

theorem between (hpair : closing? c = some close) (h : Nested cs) :
    Nested (c :: cs ++ [close]) := by
  unfold Nested
  rw [List.cons_append, List.foldlM_cons, step_of_closing? hpair, Option.bind_eq_bind,
    Option.bind_some, List.foldlM_append, h.foldlM, Option.bind_eq_bind, Option.bind_some,
    List.foldlM_cons, step_of_isClosing (isClosing_of_closing? hpair)]
  rfl

theorem flatMap {α : Type} {f : α → List Char} {items : List α} (h : ∀ item ∈ items, Nested (f item)) :
    Nested (items.flatMap f) := by
  induction items with
  | nil => exact nil
  | cons first items ih =>
    rw [List.flatMap_cons]
    exact (h first List.mem_cons_self).append (ih fun item hitem => h item (.tail first hitem))

end Nested

end Bracket

/-! ### The brackets of texts and lines -/

namespace Text

def brackets (s : String) : List Char := s.toList.filter Bracket.isBracket

@[simp] theorem brackets_append (s t : String) : brackets (s ++ t) = brackets s ++ brackets t := by
  simp only [brackets, String.toList_append, List.filter_append]

theorem brackets_eq_nil_iff {s : String} :
    brackets s = [] ↔ ∀ c ∈ s.toList, Bracket.isBracket c = false := by
  simp [brackets]

/-- A literal is the text of its characters, which is faster to read than its bytes. -/
theorem brackets_ofList (cs : List Char) :
    brackets (String.ofList cs) = cs.filter Bracket.isBracket := by
  rw [brackets, String.toList_ofList]

theorem brackets_join (texts : List String) :
    brackets (String.join texts) = texts.flatMap brackets := by
  induction texts with
  | nil => rfl
  | cons first rest ih => rw [String.join_cons, brackets_append, ih, List.flatMap_cons]

theorem foldlM_brackets (awaited : List Char) (s : String) :
    (brackets s).foldlM Bracket.step awaited = s.toList.foldlM Bracket.step awaited := by
  unfold brackets
  induction s.toList generalizing awaited with
  | nil => rfl
  | cons c cs ih =>
    by_cases hc : Bracket.isBracket c = true
    · rw [List.filter_cons_of_pos hc, List.foldlM_cons, List.foldlM_cons]
      exact congrArg _ (funext ih)
    · have hstep : Bracket.step awaited c = some awaited :=
        Bracket.step_of_not_isBracket (Bool.eq_false_iff.mpr hc)
      rw [List.filter_cons_of_neg hc, List.foldlM_cons, hstep]
      exact ih awaited

theorem brackets_joinWith {glue : String} (hglue : brackets glue = []) (texts : List String) :
    brackets (joinWith glue texts) = texts.flatMap brackets := by
  induction texts with
  | nil => rfl
  | cons first rest ih =>
    cases rest with
    | nil => simp [joinWith]
    | cons next rest =>
      rw [joinWith, brackets_append, brackets_append, hglue, ih, List.append_nil]
      rfl

end Text

theorem Name.isBracket_of_isPart {c : Char} (h : isPart c = true) : Bracket.isBracket c = false :=
  Letter.of_isAscii (P := fun c => isPart c = true → Bracket.isBracket c = false)
    (by decide +kernel) (isAscii_of_isPart h) h

theorem Name.brackets_of_isIdentifier {name : String} (h : isIdentifier name = true) :
    Text.brackets name = [] :=
  Text.brackets_eq_nil_iff.mpr fun c hc => isBracket_of_isPart (isPart_of_mem h c hc)

theorem Name.brackets_of_isDotted {name : String} (h : isDotted name = true) :
    Text.brackets name = [] := by
  refine Text.brackets_eq_nil_iff.mpr ?_
  intro c hc
  rcases isPart_or_dot h hc with hpart | rfl
  · exact isBracket_of_isPart hpart
  · rfl

namespace Source

/-- The brackets of lines, from the first line to the last. -/
def brackets (lines : List String) : List Char := lines.flatMap Text.brackets

@[simp] theorem brackets_nil : brackets [] = [] := rfl

@[simp] theorem brackets_cons (line : String) (lines : List String) :
    brackets (line :: lines) = Text.brackets line ++ brackets lines := rfl

@[simp] theorem brackets_append (lines others : List String) :
    brackets (lines ++ others) = brackets lines ++ brackets others := List.flatMap_append

@[simp] theorem brackets_indent (lines : List String) : brackets (indent lines) = brackets lines := by
  induction lines with
  | nil => rfl
  | cons line lines ih =>
    have hline : Text.brackets (if line.isEmpty then line else "    " ++ line) =
        Text.brackets line := by
      split
      · rfl
      · rw [Text.brackets_append]
        rfl
    rw [indent, List.map_cons, brackets_cons, hline, brackets_cons]
    exact congrArg _ ih

@[simp] theorem brackets_block (header body : List String) :
    brackets (block header body) = brackets header ++ ('\x7b' :: brackets body ++ ['\x7d']) := by
  have hopen : Text.brackets "\x7b" = ['\x7b'] := rfl
  have hclose : Text.brackets "\x7d" = ['\x7d'] := rfl
  simp only [block, brackets_append, brackets_cons, brackets_indent, brackets_nil, hopen, hclose,
    List.append_nil, List.append_assoc, List.cons_append, List.nil_append]

@[simp] theorem brackets_spaced (groups : List (List String)) :
    brackets (spaced groups) = groups.flatMap brackets := by
  induction groups with
  | nil => rfl
  | cons first rest ih =>
    cases rest with
    | nil => simp [spaced]
    | cons next rest =>
      have hblank : Text.brackets "" = [] := rfl
      rw [spaced, brackets_append, brackets_append, brackets_cons, brackets_nil, hblank, ih,
        List.nil_append, List.append_nil]
      rfl

@[simp] theorem brackets_members (lines : List String) :
    Text.brackets (members lines) = brackets lines := by
  unfold members text
  rw [Text.brackets_joinWith (by rfl)]
  exact brackets_indent lines

/-- Every bracket in the lines is closed, in the reverse of the order in which they are opened. -/
def Nested (lines : List String) : Prop := Bracket.Nested (brackets lines)

namespace Nested

variable {lines others header body : List String}

theorem of_brackets_eq (cs : List Char) (h : brackets lines = cs) (hcs : Bracket.Nested cs) :
    Nested lines := by
  unfold Nested
  rw [h]
  exact hcs

theorem append (h : Nested lines) (hothers : Nested others) : Nested (lines ++ others) := by
  unfold Nested
  rw [brackets_append]
  exact Bracket.Nested.append h hothers

theorem block (hheader : Nested header) (hbody : Nested body) :
    Nested (block header body) := by
  unfold Nested
  rw [brackets_block]
  exact Bracket.Nested.append hheader (Bracket.Nested.between rfl hbody)

theorem spaced_nil : Nested (spaced []) := Bracket.Nested.nil

theorem spaced_cons {group : List String} {groups : List (List String)} (h : Nested group)
    (hrest : Nested (spaced groups)) : Nested (spaced (group :: groups)) := by
  unfold Nested at hrest ⊢
  rw [brackets_spaced] at hrest ⊢
  exact Bracket.Nested.append h hrest

end Nested

end Source

/-! ### Outlines -/

namespace Source

/-- The characters outside of all braces, with the outermost braces; `depth` braces are open. -/
def outside : Nat → List Char → List Char
  | _, [] => []
  | depth, c :: cs =>
    if c = '\x7b' then (if depth = 0 then [c] else []) ++ outside (depth + 1) cs
    else if c = '\x7d' then (if depth ≤ 1 then [c] else []) ++ outside (depth - 1) cs
    else (if depth = 0 then [c] else []) ++ outside depth cs

/-- A text without what stands in braces. -/
def outline (text : String) : String := String.ofList (outside 0 text.toList)

/-- What is no bracket has no say in what stands outside. -/
theorem outside_filter_isBracket (depth : Nat) (cs : List Char) :
    outside depth (cs.filter Bracket.isBracket) =
      (outside depth cs).filter Bracket.isBracket := by
  induction cs generalizing depth with
  | nil => rfl
  | cons c cs ih =>
    have hemit : ∀ shown : Prop, [Decidable shown] → Bracket.isBracket c = true →
        (if shown then [c] else []).filter Bracket.isBracket = if shown then [c] else [] := by
      intro shown _ hc
      split <;> simp [hc]
    by_cases hc : Bracket.isBracket c = true
    · rw [List.filter_cons_of_pos hc, outside, outside]
      split
      · rw [List.filter_append, hemit _ hc, ih]
      · split
        · rw [List.filter_append, hemit _ hc, ih]
        · rw [List.filter_append, hemit _ hc, ih]
    · obtain ⟨hopen, hclose⟩ := Bracket.not_brace_of_not_isBracket (Bool.eq_false_iff.mpr hc)
      rw [List.filter_cons_of_neg hc, outside, if_neg hopen, if_neg hclose, List.filter_append, ih]
      split <;> simp [hc]

theorem brackets_outline (text : String) :
    Text.brackets (outline text) = outside 0 (Text.brackets text) := by
  rw [Text.brackets, outline, String.toList_ofList, ← outside_filter_isBracket]
  rfl

theorem outside_of_plain {cs : List Char} (rest : List Char)
    (h : ∀ c ∈ cs, c ≠ '\x7b' ∧ c ≠ '\x7d') : outside 0 (cs ++ rest) = cs ++ outside 0 rest := by
  induction cs with
  | nil => rfl
  | cons c cs ih =>
    obtain ⟨hopen, hclose⟩ := h c List.mem_cons_self
    rw [List.cons_append, outside, if_neg hopen, if_neg hclose, if_pos rfl,
      ih fun x hx => h x (.tail c hx)]
    rfl

theorem outside_of_step {awaited after : List Char} {c : Char} (cs : List Char)
    (h : Bracket.step awaited c = some after) :
    outside (awaited.count '\x7d' + 1) (c :: cs) = outside (after.count '\x7d' + 1) cs := by
  rcases Bracket.step_cases h with ⟨close, hopen, rfl⟩ | ⟨hclose, rfl⟩ | ⟨hplain, rfl⟩
  · unfold Bracket.closing? at hopen
    split at hopen <;> cases hopen <;> simp [outside]
  · simp only [Bracket.isClosing, Bool.or_eq_true, beq_iff_eq] at hclose
    rcases hclose with (rfl | rfl) | rfl <;> simp [outside]
  · simp [outside, Bracket.not_brace_of_not_isBracket hplain]

/-- Inside of braces, characters only change how many braces are open. -/
theorem outside_of_foldlM {awaited after cs : List Char} (rest : List Char)
    (h : cs.foldlM Bracket.step awaited = some after) :
    outside (awaited.count '\x7d' + 1) (cs ++ rest) = outside (after.count '\x7d' + 1) rest := by
  induction cs generalizing awaited with
  | nil =>
    rw [List.foldlM_nil, Option.pure_def, Option.some.injEq] at h
    rw [h, List.nil_append]
  | cons c cs ih =>
    rw [List.foldlM_cons] at h
    obtain ⟨next, hstep, hrest⟩ := Option.bind_eq_some_iff.mp h
    rw [List.cons_append, outside_of_step _ hstep]
    exact ih hrest

/-- Nested members between braces do not show. -/
theorem outline_braces {front members : String} (hfront : Text.brackets front = [])
    (hmembers : Bracket.Nested (Text.brackets members)) :
    outline (front ++ "\x7b" ++ members ++ "\x7d\n") = front ++ "\x7b\x7d\n" := by
  have hread := hmembers.foldlM []
  rw [Text.foldlM_brackets] at hread
  have hplain : ∀ c ∈ front.toList, c ≠ '\x7b' ∧ c ≠ '\x7d' := fun c hc =>
    Bracket.not_brace_of_not_isBracket (Text.brackets_eq_nil_iff.mp hfront c hc)
  have houtside : outside 0 (front.toList ++ '\x7b' :: (members.toList ++ ['\x7d', '\n'])) =
      front.toList ++ ['\x7b', '\x7d', '\n'] := by
    rw [outside_of_plain _ hplain, outside, if_pos rfl, if_pos rfl]
    have hinside := outside_of_foldlM ['\x7d', '\n'] hread
    rw [List.count_nil] at hinside
    rw [hinside]
    rfl
  have hopen : "\x7b".toList = ['\x7b'] := rfl
  have hclose : "\x7d\n".toList = ['\x7d', '\n'] := rfl
  have hboth : "\x7b\x7d\n".toList = ['\x7b', '\x7d', '\n'] := rfl
  rw [← String.toList_inj, outline, String.toList_ofList]
  simp only [String.toList_append, hopen, hclose, hboth, List.append_assoc, List.singleton_append]
  exact houtside

end Source

namespace SourceFile

/-- The text in front of the members. -/
def front (f : SourceFile) : String :=
  "namespace " ++ f.nameSpace ++ ";\n\n" ++ importLines f.imports ++ f.declaration ++ "\n"

/-- The text between the braces. -/
def memberLines (f : SourceFile) : String := "\n" ++ if f.body.isEmpty then "" else f.body ++ "\n"

theorem render_eq (f : SourceFile) :
    f.render = f.front ++ "\x7b" ++ f.memberLines ++ "\x7d\n" := by
  have hopen : "\n\x7b\n" = "\n" ++ ("\x7b" ++ "\n") := rfl
  unfold render front memberLines
  simp only [hopen, String.append_assoc]

theorem brackets_memberLines (f : SourceFile) : Text.brackets f.memberLines = Text.brackets f.body := by
  have hbreak : Text.brackets "\n" = [] := rfl
  unfold memberLines
  by_cases hempty : f.body.isEmpty = true
  · have hbody : f.body = "" := String.isEmpty_iff.mp hempty
    rw [if_pos hempty, hbody]
    rfl
  · rw [if_neg hempty, Text.brackets_append, Text.brackets_append, hbreak, List.nil_append,
      List.append_nil]

end SourceFile

end Scaffold
