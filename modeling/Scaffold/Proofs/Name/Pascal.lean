/-
  Scaffold/Proofs/Name/Pascal.lean
  ================================
  **PascalCase is a normal form.**

  Free-form text becomes a name in one of two ways: an identifier with a capital in front is kept,
  everything else is cut into words that are capitalised. `Name.IsPascal` says what either way gives
  when it gives an identifier: an identifier that starts with an ASCII capital. Such a name is kept
  (`IsPascal.pascal_eq`), and so is its English plural.

  The capital in front of a word is the capital form of some letter, and of no other character than
  `_` is the capital form a small ASCII letter or `_` (`Letter.toUpper_cons`). Some letters outside
  ASCII do have a capital in ASCII, so that `ı` and `ſ` may open a name.

  Words are the letters and numbers of a text and nothing else (`Words.flatten_ofText`), so `_` in
  front of an identifier is lost. What is left need not be an identifier
  (`Name.isIdentifier_pascal_iff`).
-/
import Mathlib.Data.List.Find
import Scaffold.Proofs.Name.Identifier
import Scaffold.Proofs.Text

namespace Scaffold

/-! ### Capital forms -/

namespace Letter

/-- A name may start with the character, but not with a capital then. -/
def IsSmallStart (c : Char) : Prop := Name.isStart c = true ∧ isAsciiUpper c = false

instance (c : Char) : Decidable (IsSmallStart c) := inferInstanceAs (Decidable (_ ∧ _))

theorem not_isSmallStart_of_le {n : Nat} (h : 128 ≤ n) : ¬IsSmallStart (Char.ofNat n) := by
  rintro ⟨hstart, -⟩
  have hascii : (Char.ofNat n).toNat < 128 := by
    simpa [isAscii] using Name.isAscii_of_isPart (Name.isPart_of_isStart hstart)
  by_cases hvalid : n.isValidChar
  · rw [Char.ofNat, dif_pos hvalid] at hascii
    exact absurd hascii (Nat.not_lt.mpr h)
  · have hnull : Char.ofNat n = Char.ofNat 0 := by
      rw [Char.ofNat, dif_neg hvalid]
      rfl
    rw [hnull] at hstart
    exact absurd hstart (by decide)

/-- A shift to a capital leads to no ASCII character but to single capitals. -/
theorem upperShifts_lead_to_capitals : ∀ shift ∈ upperShifts,
    128 ≤ (shift.1 : Int) + shift.2.2.2 ∨
      shift.1 = shift.2.1 ∧ 65 ≤ (shift.1 : Int) + shift.2.2.2 ∧
        (shift.1 : Int) + shift.2.2.2 ≤ 90 := by
  decide +kernel

/-- A capital form of several characters starts with no small ASCII letter. -/
theorem upperExpansions_start_with_capitals : ∀ entry ∈ upperExpansions,
    ∃ first rest, entry.2 = first :: rest ∧ ¬IsSmallStart (Char.ofNat first) := by
  have hall : ∀ entry ∈ upperExpansions,
      entry.2.head?.any (fun first => !decide (IsSmallStart (Char.ofNat first))) = true := by
    decide +kernel
  intro entry hentry
  have hfirst := hall entry hentry
  cases hlist : entry.2 with
  | nil => simp [hlist] at hfirst
  | cons first rest => exact ⟨first, rest, rfl, by simpa [hlist] using hfirst⟩

theorem not_isSmallStart_shifted {n : Nat} (h : 128 ≤ n) :
    ¬IsSmallStart (Char.ofNat ((shifted? n upperShifts).getD n)) := by
  cases hshifted : shifted? n upperShifts with
  | none => exact not_isSmallStart_of_le h
  | some m =>
    obtain ⟨⟨first, last, step, offset⟩, hfind, rfl⟩ := Option.map_eq_some_iff.mp hshifted
    have hrun : onRun n first last step = true := by simpa using List.find?_some hfind
    have hbounds : first ≤ n ∧ n ≤ last := by
      simp only [onRun, Bool.and_eq_true, decide_eq_true_eq] at hrun
      exact hrun.1
    have hlead := upperShifts_lead_to_capitals _ (List.mem_of_find?_eq_some hfind)
    rw [Option.getD_some]
    dsimp only at hlead ⊢
    rcases hlead with hfar | ⟨hsingle, hlow, hhigh⟩
    · exact not_isSmallStart_of_le (by omega)
    · have hcapitals : ∀ m < 91, 65 ≤ m → ¬IsSmallStart (Char.ofNat m) := by decide
      exact hcapitals _ (by omega) (by omega)

/-- A capital form has a first character, and of no character but `_` is it `_` or a small ASCII
letter. -/
theorem toUpper_cons (c : Char) :
    ∃ d ds, toUpper c = d :: ds ∧ (c ≠ '_' → ¬IsSmallStart d) := by
  unfold toUpper
  split
  · next hascii =>
    refine ⟨asciiUpper c, [], rfl, ?_⟩
    exact of_isAscii (P := fun c => c ≠ '_' → ¬IsSmallStart (asciiUpper c)) (by decide) hascii
  · next hascii =>
    have hfar : 128 ≤ c.toNat := by simpa [isAscii] using hascii
    unfold mapped
    split
    · next ns hlookup =>
      obtain ⟨front, back, hsplit, -⟩ := List.lookup_eq_some_iff.mp hlookup
      obtain ⟨first, rest, hns, hfirst⟩ :=
        upperExpansions_start_with_capitals (c.toNat, ns) (by rw [hsplit]; simp)
      dsimp only at hns
      exact ⟨Char.ofNat first, rest.map Char.ofNat, by rw [hns, List.map_cons], fun _ => hfirst⟩
    · exact ⟨_, [], rfl, fun _ => not_isSmallStart_shifted hfar⟩

end Letter

/-! ### Words -/

namespace Words

theorem pieces_ne_nil (cs : List Char) : pieces cs ≠ [] := by
  induction cs with
  | nil => simp [pieces]
  | cons c cs _ =>
    rw [pieces]
    split
    · simp
    · split <;> simp

/-- Cutting into pieces drops the separators and nothing else. -/
theorem flatten_pieces (cs : List Char) : (pieces cs).flatten = cs.filter Letter.isWordChar := by
  induction cs with
  | nil => rfl
  | cons c cs ih =>
    obtain ⟨piece, rest, hpieces⟩ := List.exists_cons_of_ne_nil (pieces_ne_nil cs)
    rw [hpieces, List.flatten_cons] at ih
    rw [pieces, hpieces]
    by_cases hword : Letter.isWordChar c = true
    · simp only [hword, if_true, List.flatten_cons, List.cons_append, ih]
      rw [List.filter_cons_of_pos hword]
    · simp only [hword, if_false, Bool.false_eq_true, List.flatten_cons, List.nil_append, ih]
      rw [List.filter_cons_of_neg hword]

/-- Cutting a piece into words drops nothing. -/
theorem flatten_cut (m : Mode) (word cs : List Char) :
    (cut m word cs).flatten = word.reverse ++ cs := by
  fun_induction cut m word cs with
  | case1 m word hempty =>
    rw [List.isEmpty_iff.mp hempty]
    rfl
  | case2 m word hne => rw [List.flatten_singleton, List.append_nil]
  | case3 m word c => rw [List.flatten_singleton, List.reverse_cons]
  | case4 m word c d rest hborder ih =>
    rw [List.flatten_cons, ih, List.reverse_cons, List.append_assoc]
    rfl
  | case5 m word c d rest hsmall hborder ih =>
    rw [List.flatten_cons, ih]
    rfl
  | case6 m word c d rest hsmall hcapital ih =>
    rw [ih, List.reverse_cons, List.append_assoc]
    rfl

/-- **The words of a text are its letters and numbers**, in order. -/
theorem flatten_ofText (s : String) :
    (ofText s).flatten = s.toList.filter Letter.isWordChar := by
  have hcut : ∀ parts : List (List Char), (parts.flatMap (cut .boundary [])).flatten =
      parts.flatten := by
    intro parts
    induction parts with
    | nil => rfl
    | cons piece parts ih =>
      rw [List.flatMap_cons, List.flatten_append, flatten_cut, ih, List.flatten_cons]
      rfl
  rw [ofText, hcut, flatten_pieces]

theorem mem_of_mem_ofText {s : String} {w : List Char} (h : w ∈ ofText s) {c : Char}
    (hc : c ∈ w) : c ∈ s.toList ∧ Letter.isWordChar c = true := by
  have hmem : c ∈ (ofText s).flatten := List.mem_flatten.mpr ⟨w, h, hc⟩
  rw [flatten_ofText] at hmem
  exact List.mem_filter.mp hmem

/-- The first character of a text in words is the capital form of its first letter or number. -/
theorem head?_upperCamel (s : String) :
    (upperCamel s).toList.head? =
      (s.toList.find? Letter.isWordChar).bind fun c => (Letter.toUpper c).head? := by
  have hwords : ∀ words : List (List Char), (words.flatMap capitalised).head? =
      words.flatten.head?.bind fun c => (Letter.toUpper c).head? := by
    intro words
    induction words with
    | nil => rfl
    | cons w words ih =>
      cases w with
      | nil => exact ih
      | cons c cs =>
        obtain ⟨d, ds, hupper, -⟩ := Letter.toUpper_cons c
        simp [capitalised, hupper]
  rw [upperCamel, String.toList_ofList, hwords, flatten_ofText, List.head?_filter]

theorem not_isSmallStart_upperCamel {s : String} {c : Char}
    (h : (upperCamel s).toList.head? = some c) : ¬Letter.IsSmallStart c := by
  rw [head?_upperCamel] at h
  obtain ⟨x, hfound, hhead⟩ := Option.bind_eq_some_iff.mp h
  have hword : Letter.isWordChar x = true := List.find?_some hfound
  have hx : x ≠ '_' := by
    rintro rfl
    exact absurd hword (by decide)
  obtain ⟨d, ds, hupper, hd⟩ := Letter.toUpper_cons x
  obtain rfl : d = c := by simpa [hupper] using hhead
  exact hd hx

/-- Capital and small forms of such a character go on as a name may, and no sigma is among them. -/
theorem forms_of_isPart {c : Char} (h : Name.isPart c = true) :
    (∀ d ∈ Letter.toUpper c, Name.isPart d = true) ∧
      (∀ d ∈ Letter.toLower c, Name.isPart d = true) ∧ (c == 'Σ') = false := by
  obtain ⟨hupper, hlower, hsigma⟩ := Letter.of_isAscii (P := fun c => Name.isPart c = true →
    (Letter.toUpper c).all Name.isPart = true ∧ (Letter.toLower c).all Name.isPart = true ∧
      (c == 'Σ') = false) (by decide) (Name.isAscii_of_isPart h) h
  exact ⟨List.all_eq_true.mp hupper, List.all_eq_true.mp hlower, hsigma⟩

theorem isPart_of_mem_lowerTail {cs : List Char} (h : ∀ c ∈ cs, Name.isPart c = true) :
    ∀ d ∈ lowerTail cs, Name.isPart d = true := by
  fun_induction lowerTail cs with
  | case1 => exact List.forall_mem_nil _
  | case2 c hsigma =>
    obtain ⟨-, -, hnot⟩ := forms_of_isPart (h c List.mem_cons_self)
    rw [hnot] at hsigma
    cases hsigma
  | case3 c _ =>
    obtain ⟨-, hlower, -⟩ := forms_of_isPart (h c List.mem_cons_self)
    exact hlower
  | case4 c cs _ ih =>
    obtain ⟨hc, hrest⟩ := List.forall_mem_cons.mp h
    obtain ⟨-, hlower, -⟩ := forms_of_isPart hc
    intro d hd
    rcases List.mem_append.mp hd with hd | hd
    · exact hlower d hd
    · exact ih hrest d hd

theorem isPart_of_mem_capitalised {w : List Char} (h : ∀ c ∈ w, Name.isPart c = true) :
    ∀ d ∈ capitalised w, Name.isPart d = true := by
  cases w with
  | nil => exact List.forall_mem_nil _
  | cons c cs =>
    obtain ⟨hc, hrest⟩ := List.forall_mem_cons.mp h
    obtain ⟨hupper, -, -⟩ := forms_of_isPart hc
    intro d hd
    rcases List.mem_append.mp hd with hd | hd
    · exact hupper d hd
    · exact isPart_of_mem_lowerTail hrest d hd

theorem isPart_of_mem_upperCamel {s : String} (h : ∀ c ∈ s.toList, Name.isPart c = true) :
    ∀ d ∈ (upperCamel s).toList, Name.isPart d = true := by
  intro d hd
  rw [upperCamel, String.toList_ofList] at hd
  obtain ⟨w, hw, hd⟩ := List.mem_flatMap.mp hd
  exact isPart_of_mem_capitalised (fun c hc => h c (mem_of_mem_ofText hw hc).1) d hd

end Words

/-! ### Names in PascalCase -/

namespace Name

/-- An identifier that starts with a capital. -/
structure IsPascal (s : String) : Prop where
  identifier : isIdentifier s = true
  capital : ∃ c, s.toList.head? = some c ∧ Letter.isAsciiUpper c = true

theorem not_isBlank_of_isPart {c : Char} (h : isPart c = true) : Letter.isBlank c = false :=
  Letter.of_isAscii (P := fun c => isPart c = true → Letter.isBlank c = false) (by decide)
    (isAscii_of_isPart h) h

theorem trim_of_isIdentifier {s : String} (h : isIdentifier s = true) : Text.trim s = s :=
  Text.trim_eq_self fun c hc => not_isBlank_of_isPart ((isIdentifier_iff.mp h).2 c hc)

theorem isBlank_of_isIdentifier {s : String} (h : isIdentifier s = true) :
    Text.isBlank s = false := by
  rw [Text.isBlank, trim_of_isIdentifier h]
  exact String.isEmpty_eq_false_iff.mpr (ne_empty_of_isIdentifier h)

theorem IsPascal.pascal_eq {s : String} (h : IsPascal s) : pascal s = s := by
  obtain ⟨c, hhead, hupper⟩ := h.capital
  have hcapital : Letter.isUpper c = true := by
    refine Letter.of_isAscii (P := fun c => Letter.isAsciiUpper c = true → Letter.isUpper c = true)
      (by decide) ?_ hupper
    exact isAscii_of_isPart ((isIdentifier_iff.mp h.identifier).2 c (List.mem_of_head? hhead))
  unfold pascal
  simp only [trim_of_isIdentifier h.identifier, h.identifier, hhead, Option.any_some, hcapital,
    Bool.and_self, if_true]

/-- What becomes an identifier is in PascalCase then. -/
theorem isPascal_pascal {s : String} (h : isIdentifier (pascal s) = true) :
    IsPascal (pascal s) := by
  refine ⟨h, ?_⟩
  obtain ⟨⟨c, hhead, hstart⟩, -⟩ := isIdentifier_iff.mp h
  refine ⟨c, hhead, ?_⟩
  have hascii : Letter.isAscii c = true := isAscii_of_isPart (isPart_of_isStart hstart)
  by_cases hkept : (isIdentifier (Text.trim s) &&
      (Text.trim s).toList.head?.any Letter.isUpper) = true
  · rw [pascal, if_pos hkept] at hhead
    rw [hhead, Bool.and_eq_true] at hkept
    have hupper : Letter.isUpper c = true := hkept.2
    simpa [Letter.isUpper, hascii] using hupper
  · rw [pascal, if_neg hkept] at hhead
    by_contra hnot
    exact Words.not_isSmallStart_upperCamel hhead ⟨hstart, by simpa using hnot⟩

theorem IsPascal.plural {s : String} (h : IsPascal s) : IsPascal (Plural.of s) := by
  obtain ⟨hword, hhead⟩ := Plural.isWord_of h.identifier
  refine ⟨isIdentifier_iff.mpr hword, ?_⟩
  rw [hhead]
  exact h.capital

/-! ### Identifiers that stay identifiers -/

/-- The first character of the text but `_` is an ASCII letter. -/
def opensWithLetter (s : String) : Bool := (s.toList.find? (· != '_')).any Letter.isAsciiLetter

/-- Of the characters in an identifier only `_` is a separator. -/
theorem isWordChar_of_isPart {c : Char} (h : isPart c = true) :
    Letter.isWordChar c = (c != '_') :=
  Letter.of_isAscii (P := fun c => isPart c = true → Letter.isWordChar c = (c != '_'))
    (by decide) (isAscii_of_isPart h) h

/-- The capital form of a letter or digit may open a name exactly if it was a letter. -/
theorem isStart_toUpper {c : Char} (h : isPart c = true) (hc : (c != '_') = true) :
    (Letter.toUpper c).head?.any isStart = Letter.isAsciiLetter c :=
  Letter.of_isAscii (P := fun c => isPart c = true → (c != '_') = true →
    (Letter.toUpper c).head?.any isStart = Letter.isAsciiLetter c)
    (by decide) (isAscii_of_isPart h) h hc

theorem isIdentifier_upperCamel_iff {s : String} (h : ∀ c ∈ s.toList, isPart c = true) :
    isIdentifier (Words.upperCamel s) = true ↔ opensWithLetter s = true := by
  have hfirst : s.toList.find? Letter.isWordChar = s.toList.find? (· != '_') :=
    List.find?_congr fun c hc => isWordChar_of_isPart (h c hc)
  rw [isIdentifier_iff, IsWord, Words.head?_upperCamel, hfirst, opensWithLetter]
  cases hfound : s.toList.find? (· != '_') with
  | none => simp
  | some first =>
    have hstart := isStart_toUpper (h first (List.mem_of_find?_eq_some hfound))
      (List.find?_some (p := (· != '_')) hfound)
    obtain ⟨d, ds, hupper, -⟩ := Letter.toUpper_cons first
    rw [hupper] at hstart
    rw [Option.bind_some, Option.any_some, ← hstart, hupper]
    constructor
    · rintro ⟨⟨x, hx, hopens⟩, -⟩
      rw [hx]
      exact hopens
    · intro hopens
      exact ⟨⟨d, rfl, hopens⟩, Words.isPart_of_mem_upperCamel h⟩

theorem opensWithLetter_of_isUpper {s : String} {c : Char} (hhead : s.toList.head? = some c)
    (hpart : isPart c = true) (hupper : Letter.isUpper c = true) : opensWithLetter s = true := by
  have hascii : Letter.isAscii c = true := isAscii_of_isPart hpart
  obtain ⟨hword, hletter⟩ : (c != '_') = true ∧ Letter.isAsciiLetter c = true :=
    Letter.of_isAscii (P := fun c => Letter.isUpper c = true →
      (c != '_') = true ∧ Letter.isAsciiLetter c = true) (by decide) hascii hupper
  obtain ⟨rest, hrest⟩ := List.head?_eq_some_iff.mp hhead
  rw [opensWithLetter, hrest, List.find?_cons_of_pos (p := (· != '_')) hword]
  exact hletter

/-- **When an identifier stays one.** Words take up the letters and digits only, so an identifier
whose first letter or digit is a digit, or that has none, does not give a name. -/
theorem isIdentifier_pascal_iff {s : String} (h : isIdentifier (Text.trim s) = true) :
    isIdentifier (pascal s) = true ↔ opensWithLetter (Text.trim s) = true := by
  obtain ⟨⟨c, hhead, -⟩, hparts⟩ := isIdentifier_iff.mp h
  by_cases hkept : (isIdentifier (Text.trim s) &&
      (Text.trim s).toList.head?.any Letter.isUpper) = true
  · have hupper : Letter.isUpper c = true := by
      rw [hhead, Bool.and_eq_true] at hkept
      exact hkept.2
    have hopens : opensWithLetter (Text.trim s) = true :=
      opensWithLetter_of_isUpper hhead (hparts c (List.mem_of_head? hhead)) hupper
    rw [pascal, if_pos hkept]
    exact ⟨fun _ => hopens, fun _ => h⟩
  · rw [pascal, if_neg hkept]
    exact isIdentifier_upperCamel_iff hparts

end Name

end Scaffold
