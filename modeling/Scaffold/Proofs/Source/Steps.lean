/-
  Scaffold/Proofs/Source/Steps.lean
  =================================
  **What generated code does, read off its text.**

  A few calls in generated code matter to more than one file: a rule for a property, the insertion
  of a row, the check of a permission and its withholding. `Text.steps` finds them all, in order, in
  a text that nothing else is known of. Each begins with a word and an opening bracket, and names
  hold no bracket, so a text can be read piece by piece: `Text.Tells` is what a piece adds to the
  steps wherever it stands. Literal pieces are read by evaluation (`Step.isQuiet`).
-/
import Scaffold.Proofs.Name.Composite
import Scaffold.Proofs.Source.Lines

namespace Scaffold

/-! ### Steps -/

/-- A call in generated code. -/
inductive Step
  /-- `RuleFor(x => x.property, _ => value…`, the value up to its first bracket. -/
  | rule (property value : String)
  /-- `InsertAsync(row)` -/
  | insertion (row : String)
  /-- `MustHavePermission<…` -/
  | check
  /-- `SetUserNotPermitted(…` -/
  | withholding
  deriving DecidableEq, Repr

namespace Step

/-- The text in front of the first bracket. -/
def argument (cs : List Char) : String :=
  String.ofList (cs.takeWhile fun c => c != '(' && c != ')')

/-- The rule whose lambda starts the text. -/
def readRule (cs : List Char) : Step :=
  .rule (String.ofList (((cs.dropWhile (· != '.')).drop 1).takeWhile (· != ',')))
    (argument ((cs.dropWhile (· != ',')).drop 7))

/-- A word that steps begin with: its letters, the bracket behind them, and how the step is read
from what follows. -/
structure Word where
  letters : List Char
  bracket : Char
  read : List Char → Step

/-- All words that steps begin with. -/
def words : List Word :=
  [⟨['R', 'u', 'l', 'e', 'F', 'o', 'r'], '(', readRule⟩,
   ⟨['I', 'n', 's', 'e', 'r', 't', 'A', 's', 'y', 'n', 'c'], '(', fun cs => .insertion (argument cs)⟩,
   ⟨['M', 'u', 's', 't', 'H', 'a', 'v', 'e', 'P', 'e', 'r', 'm', 'i', 's', 's', 'i', 'o', 'n'], '<',
    fun _ => .check⟩,
   ⟨['S', 'e', 't', 'U', 's', 'e', 'r', 'N', 'o', 't', 'P', 'e', 'r', 'm', 'i', 't', 't', 'e', 'd'],
    '(', fun _ => .withholding⟩]

namespace Word

/-- The word with its bracket. -/
def text (w : Word) : List Char := w.letters ++ [w.bracket]

/-- The word with its bracket, last character first. -/
def reversed (w : Word) : List Char := w.bracket :: w.letters.reverse

theorem reverse_text (w : Word) : w.text.reverse = w.reversed := by simp [text, reversed]

end Word

/-- The step that begins where `passed`, last character first, ends with its word. -/
def at? (passed rest : List Char) : Option Step :=
  (words.find? (·.reversed.isPrefixOf passed)).map (·.read rest)

/-- The steps of a text that stands after `passed`. -/
def scan (passed : List Char) : List Char → List Step
  | [] => []
  | c :: cs => (at? (c :: passed) cs).toList ++ scan (c :: passed) cs

/-- Whether no word ends in the text, whatever stands before it; `seen` of it is read already. -/
def isQuiet (seen : List Char) : List Char → Bool
  | [] => true
  | c :: cs =>
    (words.all fun w => !w.reversed.isPrefixOf (c :: seen) && !(c :: seen).isPrefixOf w.reversed) &&
      isQuiet (c :: seen) cs

/-- Whether no word ends with the character. -/
def IsSilent (c : Char) : Prop := ∀ w ∈ words, c ≠ w.bracket

instance (c : Char) : Decidable (IsSilent c) := inferInstanceAs (Decidable (∀ w ∈ words, _))

end Step

/-- The steps of a text, in order. -/
def Text.steps (s : String) : List Step := Step.scan [] s.toList

/-! ### Reading character by character -/

namespace Step

variable {passed cs : List Char} {c : Char}

theorem at?_eq_none (h : ∀ w ∈ words, w.reversed.isPrefixOf passed = false) (rest : List Char) :
    at? passed rest = none := by
  have hfind : words.find? (·.reversed.isPrefixOf passed) = none :=
    List.find?_eq_none.mpr fun w hw => by simp [h w hw]
  rw [at?, hfind]
  rfl

theorem scan_of_isSilent (h : ∀ c ∈ cs, IsSilent c) (passed more : List Char) :
    scan passed (cs ++ more) = scan (cs.reverse ++ passed) more := by
  induction cs generalizing passed with
  | nil => rfl
  | cons c cs ih =>
    have hnone : at? (c :: passed) (cs ++ more) = none := by
      refine at?_eq_none ?_ _
      intro w hw
      have hne : w.bracket ≠ c := (h c List.mem_cons_self w hw).symm
      simp [Word.reversed, List.isPrefixOf, hne]
    rw [List.cons_append, scan, hnone, ih fun x hx => h x (.tail c hx)]
    simp

theorem scan_of_isQuiet {seen : List Char} (h : isQuiet seen cs = true) (passed more : List Char) :
    scan (seen ++ passed) (cs ++ more) = scan (cs.reverse ++ (seen ++ passed)) more := by
  induction cs generalizing seen with
  | nil => rfl
  | cons c cs ih =>
    rw [isQuiet, Bool.and_eq_true, List.all_eq_true] at h
    obtain ⟨hwords, hrest⟩ := h
    have hnone : at? (c :: (seen ++ passed)) (cs ++ more) = none := by
      refine at?_eq_none ?_ _
      intro w hw
      have hboth := hwords w hw
      simp only [Bool.and_eq_true, Bool.not_eq_true'] at hboth
      refine Bool.eq_false_iff.mpr ?_
      intro hends
      -- a word that ends here ends in what is seen, or reaches before it
      rcases List.prefix_or_prefix_of_prefix (List.isPrefixOf_iff_prefix.mp hends)
        (List.prefix_append (c :: seen) passed) with hword | hseen
      · rw [List.isPrefixOf_iff_prefix.mpr hword] at hboth
        cases hboth.1
      · rw [List.isPrefixOf_iff_prefix.mpr hseen] at hboth
        cases hboth.2
    have hstep := ih hrest
    rw [List.cons_append] at hstep
    rw [List.cons_append, scan, hnone, hstep]
    simp

/-- A word is read as its own step, whatever stands before it. -/
theorem scan_word {w : Word} (hw : w ∈ words) (passed more : List Char) :
    scan passed (w.text ++ more) = w.read more :: scan (w.text.reverse ++ passed) more := by
  have hletters : ∀ c ∈ w.letters, IsSilent c := by
    have hall : ∀ w ∈ words, (w.letters.all fun c => decide (IsSilent c)) = true := by decide
    exact Source.forall_mem_of_all (hall w hw)
  have hat : at? (w.bracket :: (w.letters.reverse ++ passed)) more = some (w.read more) := by
    simp only [words, List.mem_cons, List.not_mem_nil, or_false] at hw
    rcases hw with rfl | rfl | rfl | rfl <;> rfl
  rw [w.reverse_text, Word.text, List.append_assoc, scan_of_isSilent hletters, List.singleton_append,
    scan, hat]
  rfl

/-- The steps behind a part of a text are steps of the text. -/
theorem mem_scan_append {step : Step} (before : List Char)
    (h : step ∈ scan (before.reverse ++ passed) cs) : step ∈ scan passed (before ++ cs) := by
  induction before generalizing passed with
  | nil => exact h
  | cons c before ih =>
    rw [List.cons_append, scan]
    refine List.mem_append_right _ (ih ?_)
    simpa using h

end Step

/-! ### Reading piece by piece -/

namespace Text

/-- What a text adds to the steps of every text that it stands in. -/
def Tells (s : String) (es : List Step) : Prop :=
  ∀ passed more, Step.scan passed (s.toList ++ more) = es ++ Step.scan (s.toList.reverse ++ passed) more

/-- A text in which a word ends has its step. -/
theorem mem_steps_of_contains {w : Step.Word} (hw : w ∈ Step.words) {s : String}
    (h : Contains s (String.ofList w.text)) : ∃ rest, w.read rest ∈ steps s := by
  obtain ⟨before, after, rfl⟩ := h
  refine ⟨after.toList, ?_⟩
  have hparts : (before ++ String.ofList w.text ++ after).toList =
      before.toList ++ (w.text ++ after.toList) := by
    simp only [String.toList_append, String.toList_ofList, List.append_assoc]
  rw [steps, hparts]
  refine Step.mem_scan_append before.toList ?_
  rw [Step.scan_word hw]
  exact List.mem_cons_self

namespace Tells

variable {s t : String} {es fs : List Step}

theorem steps_eq (h : Tells s es) : steps s = es := by
  have hread := h [] []
  rw [List.append_nil] at hread
  rw [steps, hread]
  exact List.append_nil es

theorem append (h : Tells s es) (h' : Tells t fs) : Tells (s ++ t) (es ++ fs) := by
  intro passed more
  rw [String.toList_append, List.append_assoc, h, h', List.reverse_append, List.append_assoc,
    List.append_assoc]

theorem of_isSilent (h : ∀ c ∈ s.toList, Step.IsSilent c) : Tells s [] := fun passed more =>
  Step.scan_of_isSilent h passed more

theorem empty : Tells "" [] := fun _ _ => rfl

/-- A literal is the text of its characters, which is faster to read than its bytes. -/
theorem literal (cs : List Char) (h : Step.isQuiet [] cs = true) : Tells (String.ofList cs) [] := by
  intro passed more
  rw [String.toList_ofList]
  exact Step.scan_of_isQuiet h passed more

/-! A text that is put together from pieces is read from its first piece on. -/

theorem cons_literal (cs : List Char) (h : Step.isQuiet [] cs = true) (ht : Tells t es) :
    Tells (String.ofList cs ++ t) es := (literal cs h).append ht

theorem literals (cs ds : List Char) (h : Step.isQuiet [] (cs ++ ds) = true) :
    Tells (String.ofList cs ++ String.ofList ds) [] := by
  rw [← String.ofList_append]
  exact literal (cs ++ ds) h

/-- Two literals behind one another can hold a word together. -/
theorem cons_literals (cs ds : List Char) (h : Step.isQuiet [] (cs ++ ds) = true) (ht : Tells t es) :
    Tells (String.ofList cs ++ (String.ofList ds ++ t)) es := by
  rw [← String.append_assoc, ← String.ofList_append]
  exact cons_literal (cs ++ ds) h ht

theorem cons_silent (h : ∀ c ∈ s.toList, Step.IsSilent c) (ht : Tells t es) : Tells (s ++ t) es :=
  (of_isSilent h).append ht

theorem cons_word {w : Step.Word} (hw : w ∈ Step.words) {step : Step}
    (hread : ∀ more, w.read (t.toList ++ more) = step) (ht : Tells t es) :
    Tells (String.ofList w.text ++ t) (step :: es) := by
  intro passed more
  rw [String.toList_append, String.toList_ofList, List.append_assoc, Step.scan_word hw, hread, ht,
    List.reverse_append, List.append_assoc]
  rfl

end Tells

end Text

namespace Text.Tells

variable {s : String} {es : List Step}

theorem not_contains {w : Step.Word} (hw : w ∈ Step.words) (h : Tells s es)
    (hes : ∀ rest, w.read rest ∉ es) : ¬Contains s (String.ofList w.text) := by
  intro hcontains
  obtain ⟨rest, hrest⟩ := mem_steps_of_contains hw hcontains
  rw [h.steps_eq] at hrest
  exact hes rest hrest

theorem not_contains_check (h : Tells s es) (hes : .check ∉ es) :
    ¬Contains s "MustHavePermission<" :=
  h.not_contains (w := Step.words[2]) (List.getElem_mem _) fun _ => hes

theorem not_contains_withholding (h : Tells s es) (hes : .withholding ∉ es) :
    ¬Contains s "SetUserNotPermitted(" :=
  h.not_contains (w := Step.words[3]) (List.getElem_mem _) fun _ => hes

end Text.Tells

/-! ### Names, rules and insertions -/

theorem Name.isSilent_of_isPart {c : Char} (h : isPart c = true) : Step.IsSilent c :=
  Letter.of_isAscii (P := fun c => isPart c = true → Step.IsSilent c)
    (by decide +kernel) (isAscii_of_isPart h) h

theorem Name.isSilent_of_isIdentifier {name : String} (h : isIdentifier name = true) :
    ∀ c ∈ name.toList, Step.IsSilent c :=
  fun c hc => isSilent_of_isPart (isPart_of_mem h c hc)

theorem Name.isSilent_of_isDotted {name : String} (h : isDotted name = true) :
    ∀ c ∈ name.toList, Step.IsSilent c := by
  intro c hc
  rcases isPart_or_dot h hc with hpart | rfl
  · exact isSilent_of_isPart hpart
  · decide

theorem Name.not_bracket_of_isPart {c : Char} (h : isPart c = true) : c ≠ '(' ∧ c ≠ ')' := by
  constructor
  · rintro rfl
    cases h
  · rintro rfl
    cases h

namespace Step

theorem argument_append {front : List Char} (h : ∀ c ∈ front, c ≠ '(' ∧ c ≠ ')') {bracket : Char}
    (hbracket : bracket = '(' ∨ bracket = ')') (rest : List Char) :
    argument (front ++ bracket :: rest) = String.ofList front := by
  have hfront : ∀ c ∈ front, (c != '(' && c != ')') = true := by
    intro c hc
    simp [h c hc]
  unfold argument
  rw [List.takeWhile_append_of_pos hfront, List.takeWhile_cons_of_neg, List.append_nil]
  rcases hbracket with rfl | rfl <;> decide

/-- A rule is read from its lambda, which has neither a dot nor a comma of its own. -/
theorem readRule_eq {lambda property : List Char} (hlambda : ∀ c ∈ lambda, c ≠ '.' ∧ c ≠ ',')
    (hproperty : ∀ c ∈ property, c ≠ ',') (rest : List Char) :
    readRule (lambda ++ " => ".toList ++ lambda ++ '.' :: (property ++ ", _ => ".toList ++ rest)) =
      .rule (String.ofList property) (argument rest) := by
  have harrow : " => ".toList = [' ', '=', '>', ' '] := rfl
  have hfront : ∀ c ∈ lambda ++ " => ".toList ++ lambda, c ≠ '.' ∧ c ≠ ',' := by
    have hliteral : ∀ c ∈ " => ".toList, c ≠ '.' ∧ c ≠ ',' := by
      rw [harrow]
      exact Source.forall_mem_of_all (by decide)
    simp only [List.forall_mem_append]
    exact ⟨⟨hlambda, hliteral⟩, hlambda⟩
  generalize lambda ++ " => ".toList ++ lambda = front at hfront ⊢
  have hdot : (front ++ '.' :: (property ++ ", _ => ".toList ++ rest)).dropWhile (· != '.') =
      '.' :: (property ++ ", _ => ".toList ++ rest) := by
    rw [List.dropWhile_append_of_pos fun c hc => by simp [hfront c hc]]
    rfl
  have hcomma : (front ++ '.' :: (property ++ ", _ => ".toList ++ rest)).dropWhile (· != ',') =
      ", _ => ".toList ++ rest := by
    rw [List.dropWhile_append_of_pos fun c hc => by simp [hfront c hc],
      List.dropWhile_cons_of_pos (by decide), List.append_assoc,
      List.dropWhile_append_of_pos fun c hc => by simp [hproperty c hc]]
    rfl
  have hname : (property ++ ", _ => ".toList ++ rest).takeWhile (· != ',') = property := by
    rw [List.append_assoc, List.takeWhile_append_of_pos fun c hc => by simp [hproperty c hc]]
    exact List.append_nil _
  unfold readRule
  rw [hdot, hcomma, List.drop_one, List.tail_cons, hname]
  rfl

end Step

namespace Text.Tells

variable {t : String} {es : List Step}

theorem cons_rule {lambda property value : String} (hlambda : Name.isIdentifier lambda = true)
    (hproperty : Name.isIdentifier property = true)
    (hvalue : ∀ more, Step.argument (t.toList ++ more) = value) (ht : Tells t es) :
    Tells ("RuleFor(" ++ (lambda ++ (" => " ++ (lambda ++ ("." ++ (property ++ (", _ => " ++ t)))))))
      (.rule property value :: es) := by
  have hpart : ∀ c, Name.isPart c = true → c ≠ '.' ∧ c ≠ ',' := by
    intro c hc
    constructor
    · rintro rfl
      cases hc
    · rintro rfl
      cases hc
  refine cons_word (w := ⟨['R', 'u', 'l', 'e', 'F', 'o', 'r'], '(', Step.readRule⟩)
    List.mem_cons_self ?_ ?_
  · intro more
    have hread := Step.readRule_eq (fun c hc => hpart c (Name.isPart_of_mem hlambda c hc))
      (fun c hc => (hpart c (Name.isPart_of_mem hproperty c hc)).2) (t.toList ++ more)
    rw [hvalue, String.ofList_toList] at hread
    rw [← hread]
    simp only [String.toList_append, List.append_assoc]
    rfl
  · refine cons_silent (Name.isSilent_of_isIdentifier hlambda) (cons_literal _ (by decide)
      (cons_silent (Name.isSilent_of_isIdentifier hlambda) (cons_literal _ (by decide)
      (cons_silent (Name.isSilent_of_isIdentifier hproperty) (cons_literal _ (by decide) ht)))))

theorem cons_insertion {row : String} (hrow : Name.isIdentifier row = true) (ht : Tells t es) :
    Tells ("InsertAsync(" ++ (row ++ (");" ++ t))) (.insertion row :: es) := by
  refine cons_word (w := ⟨['I', 'n', 's', 'e', 'r', 't', 'A', 's', 'y', 'n', 'c'], '(',
    fun cs => .insertion (Step.argument cs)⟩) (.tail _ List.mem_cons_self) ?_ ?_
  · intro more
    have hread := Step.argument_append
      (fun c hc => Name.not_bracket_of_isPart (Name.isPart_of_mem hrow c hc)) (.inr rfl)
      (';' :: (t.toList ++ more))
    rw [String.ofList_toList] at hread
    simp only [String.toList_append, List.append_assoc]
    exact congrArg Step.insertion hread
  · exact cons_silent (Name.isSilent_of_isIdentifier hrow) (cons_literal _ (by decide) ht)

end Text.Tells

/-! ### Lines -/

/-- The lines tell, one after the other, what each of them tells. -/
inductive Source.Tells : List String → List Step → Prop
  | nil : Tells [] []
  | cons {line : String} {lines : List String} {es fs : List Step} (first : Text.Tells line es)
      (rest : Tells lines fs) : Tells (line :: lines) (es ++ fs)

namespace Source.Tells

variable {line : String} {lines others header body : List String} {es fs : List Step}

theorem cons_silent (first : Text.Tells line []) (rest : Tells lines fs) : Tells (line :: lines) fs :=
  cons first rest

theorem singleton (h : Text.Tells line es) : Tells [line] es := by
  rw [← List.append_nil es]
  exact cons h nil

theorem append (h : Tells lines es) (h' : Tells others fs) : Tells (lines ++ others) (es ++ fs) := by
  induction h with
  | nil => exact h'
  | cons first _ ih =>
    rw [List.cons_append, List.append_assoc]
    exact cons first ih

theorem of_forall {α : Type} {write : α → String} {told : α → List Step} {items : List α}
    (h : ∀ item ∈ items, Text.Tells (write item) (told item)) :
    Tells (items.map write) (items.flatMap told) := by
  induction items with
  | nil => exact nil
  | cons first items ih =>
    exact cons (h first List.mem_cons_self) (ih fun item hitem => h item (.tail first hitem))

theorem of_forall_silent (h : ∀ line ∈ lines, Text.Tells line []) : Tells lines [] := by
  induction lines with
  | nil => exact nil
  | cons first lines ih =>
    exact cons_silent (h first List.mem_cons_self) (ih fun line hline => h line (.tail first hline))

theorem indent (h : Tells lines es) : Tells (indent lines) es := by
  induction h with
  | nil => exact nil
  | @cons line lines es fs first _ ih =>
    have hline : Text.Tells (if line.isEmpty then line else "    " ++ line) es := by
      split
      · exact first
      · exact .cons_literal [' ', ' ', ' ', ' '] (by decide) first
    exact cons hline ih

theorem block (hheader : Tells header []) (hbody : Tells body es) :
    Tells (block header body) es := by
  have hopen : Tells ["\x7b"] [] := singleton (.literal ['\x7b'] (by decide))
  have hclose : Tells ["\x7d"] [] := singleton (.literal ['\x7d'] (by decide))
  have hall := ((hheader.append hopen).append hbody.indent).append hclose
  rw [List.append_nil] at hall
  exact hall

theorem behind_nil : Tells (spacedBehind []) [] := nil

theorem behind_cons {groups : List (List String)} (h : Tells lines es)
    (hrest : Tells (spacedBehind groups) fs) :
    Tells (spacedBehind (lines :: groups)) (es ++ fs) :=
  (cons_silent .empty h).append hrest

theorem spaced_cons {groups : List (List String)} (h : Tells lines es)
    (hrest : Tells (spacedBehind groups) fs) : Tells (spaced (lines :: groups)) (es ++ fs) := by
  rw [Source.spaced_cons]
  exact h.append hrest

theorem endLines (h : Tells lines es) : Text.Tells (Text.endLines lines) es := by
  induction h with
  | nil => exact .empty
  | @cons line lines es fs first _ ih =>
    have hfirst := first.append (.literal ['\n'] (by decide))
    rw [List.append_nil] at hfirst
    rw [Text.endLines_cons]
    exact hfirst.append ih

theorem startLines (h : Tells lines es) : Text.Tells (startLines lines) es := by
  induction h with
  | nil => exact .empty
  | @cons line lines es fs first _ ih =>
    rw [Source.startLines, List.map_cons, String.join_cons]
    exact (Text.Tells.cons_literal ['\n'] (by decide) first).append ih

theorem join (h : Tells lines es) : Text.Tells (String.join lines) es := by
  induction h with
  | nil => exact .empty
  | cons first _ ih =>
    rw [String.join_cons]
    exact first.append ih

theorem joinWith {glue : String} (hglue : Text.Tells glue []) (h : Tells lines es) :
    Text.Tells (Text.joinWith glue lines) es := by
  induction h with
  | nil => exact .empty
  | @cons line lines es fs first _ ih =>
    have hsep : Text.Tells (if lines.isEmpty then "" else glue) [] := by
      split
      · exact .empty
      · exact hglue
    have hfirst := first.append hsep
    rw [List.append_nil] at hfirst
    rw [Text.joinWith_cons]
    exact hfirst.append ih

theorem text (h : Tells lines es) : Text.Tells (text lines) es :=
  h.joinWith (.literal ['\n'] (by decide))

theorem members (h : Tells lines es) : Text.Tells (members lines) es := h.indent.text

end Source.Tells

end Scaffold
