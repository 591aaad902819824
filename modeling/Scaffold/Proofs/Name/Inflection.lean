/-
  Scaffold/Proofs/Name/Inflection.lean
  ====================================
  **Only the last word of a name is inflected.**

  A name is cut before its last capital. So whatever stands in front of a capitalised word, the cut
  is right before the word (`splitAtCapital_append_word`), and the plural of the whole is what stood
  in front and then the plural of the word. This alone would also hold if nothing was inflected at
  all; therefore the words that stay as they are are told too: they are the uncountable ones
  (`inflected_eq_self_iff`). An irregular plural never is its own singular, and a regular one is
  longer.
-/
import Scaffold.Proofs.Name.Identifier

namespace Scaffold

namespace Plural

/-! ### The cut before the last word -/

/-- A single word: a capital, and no capital behind it. -/
def IsCapitalised (word : String) : Prop :=
  ∃ c cs, word.toList = c :: cs ∧ Letter.isUpper c = true ∧ ∀ x ∈ cs, Letter.isUpper x = false

/-- The first character is no place to cut, whatever it is. -/
theorem splitAtCapital_word (c : Char) {cs : List Char}
    (hcs : ∀ x ∈ cs, Letter.isUpper x = false) : splitAtCapital (c :: cs) = ([], c :: cs) := by
  induction cs generalizing c with
  | nil => rfl
  | cons d cs ih =>
    obtain ⟨hd, hrest⟩ := List.forall_mem_cons.mp hcs
    rw [splitAtCapital, ih d hrest]
    simp only [hd, Bool.false_eq_true, if_false]

theorem splitAtCapital_append_word (head : List Char) {c : Char} {cs : List Char}
    (hc : Letter.isUpper c = true) (hcs : ∀ x ∈ cs, Letter.isUpper x = false) :
    splitAtCapital (head ++ c :: cs) = (head, c :: cs) := by
  induction head with
  | nil => exact splitAtCapital_word c hcs
  | cons d head ih =>
    rw [List.cons_append, splitAtCapital, ih]
    cases head with
    | nil => simp only [hc, if_true]
    | cons x head => rfl

theorem of_append_word (head : String) {word : String} (h : IsCapitalised word) :
    of (head ++ word) = head ++ of word := by
  obtain ⟨c, cs, hword, hc, hcs⟩ := h
  have hne : word ≠ "" := by
    rintro rfl
    cases hword
  have hwhole : head ++ word ≠ "" := by
    intro hempty
    have hchars := congrArg String.toList hempty
    rw [String.toList_append, hword] at hchars
    simp at hchars
  apply String.toList_inj.mp
  rw [toList_of hwhole, String.toList_append, String.toList_append, toList_of hne, hword,
    splitAtCapital_append_word head.toList hc hcs, splitAtCapital_word c hcs, List.nil_append]

/-! ### Words that stay as they are -/

/-- An irregular plural is another word than its singular, in either case of its first letter. -/
theorem irregular_differ : ∀ p ∈ irregular, p.2 ≠ p.1 ∧
    p.2.toList.map Letter.asciiLower = p.2.toList ∧
      (Text.upperFirst p.2).toList.map Letter.asciiLower = p.2.toList := by
  decide

theorem matchCase_ne_self {word : List Char} {plural : String}
    (h : irregular.lookup (String.ofList (word.map Letter.asciiLower)) = some plural) :
    (matchCase word plural).toList ≠ word := by
  intro hsame
  obtain ⟨before, after, hsplit, -⟩ := List.lookup_eq_some_iff.mp h
  obtain ⟨hdiffer, hsmall, hcapital⟩ :=
    irregular_differ (String.ofList (word.map Letter.asciiLower), plural) (by rw [hsplit]; simp)
  have hlower : (matchCase word plural).toList.map Letter.asciiLower = plural.toList := by
    unfold matchCase
    split
    · split
      · exact hcapital
      · exact hsmall
    · exact hsmall
  rw [hsame] at hlower
  apply hdiffer
  rw [hlower, String.ofList_toList]

theorem regular_ne_self (word : List Char) : regular word ≠ word := by
  intro hsame
  have hlength := congrArg List.length hsame
  have hies : "ies".toList.length = 3 := rfl
  have hes : "es".toList.length = 2 := rfl
  have hs : "s".toList.length = 1 := rfl
  unfold regular at hlength
  dsimp only at hlength
  split at hlength
  · rw [List.length_append, List.length_dropLast] at hlength
    omega
  · split at hlength
    · rw [List.length_append] at hlength
      omega
    · rw [List.length_append] at hlength
      omega

theorem inflected_eq_self_iff (word : List Char) :
    inflected word = word ↔ String.ofList (word.map Letter.asciiLower) ∈ uncountable := by
  unfold inflected
  dsimp only
  by_cases hsame : String.ofList (word.map Letter.asciiLower) ∈ uncountable
  · simp [hsame]
  · rw [if_neg (by simpa using hsame)]
    cases hirregular : irregular.lookup (String.ofList (word.map Letter.asciiLower)) with
    | none => exact iff_of_false (regular_ne_self word) hsame
    | some plural => exact iff_of_false (matchCase_ne_self hirregular) hsame

theorem of_eq_self_iff {word : String} (h : IsCapitalised word) :
    of word = word ↔ Text.asciiLower word ∈ uncountable := by
  obtain ⟨c, cs, hword, -, hcs⟩ := h
  have hne : word ≠ "" := by
    rintro rfl
    cases hword
  rw [← String.toList_inj, toList_of hne, hword, splitAtCapital_word c hcs, List.nil_append,
    inflected_eq_self_iff, Text.asciiLower, hword]

end Plural

/-- **Only the last word is inflected.** What stands in front of a capitalised word stays in front
of its plural, and the word itself stays exactly when it is uncountable. The plural of an identifier
is an identifier that starts with the same character. -/
theorem plural_inflects_last_word :
    (∀ head word : String, Plural.IsCapitalised word →
      Plural.of (head ++ word) = head ++ Plural.of word ∧
        (Plural.of word = word ↔ Text.asciiLower word ∈ Plural.uncountable)) ∧
    ∀ name : String, Name.isIdentifier name = true →
      Name.isIdentifier (Plural.of name) = true ∧
        (Plural.of name).toList.head? = name.toList.head? := by
  constructor
  · intro head word hword
    exact ⟨Plural.of_append_word head hword, Plural.of_eq_self_iff hword⟩
  · intro name hname
    obtain ⟨hword, hhead⟩ := Plural.isWord_of hname
    exact ⟨Name.isIdentifier_iff.mpr hword, hhead⟩

/-- In front of a person may stand letters of any script, blanks and digits; the whole name of
another opens with an underscore. -/
theorem sales_people :
    Plural.IsCapitalised "Person" ∧ Plural.of ("ÉTÉ 2y" ++ "Person") = "ÉTÉ 2yPeople" ∧
      Name.isIdentifier "_salesPerson" = true ∧
      Name.isIdentifier (Plural.of "_salesPerson") = true ∧
      (Plural.of "_salesPerson").toList.head? = some '_' := by
  have hsmall : "erson".toList.all (fun x => !Letter.isUpper x) = true := by decide
  have hword : Plural.IsCapitalised "Person" := by
    refine ⟨'P', "erson".toList, rfl, by decide, ?_⟩
    intro x hx
    simpa using List.all_eq_true.mp hsmall x hx
  have hname : Name.isIdentifier "_salesPerson" = true := by decide
  obtain ⟨hlast, hidentifier⟩ := plural_inflects_last_word
  obtain ⟨hplural, hhead⟩ := hidentifier "_salesPerson" hname
  refine ⟨hword, ?_, hname, hplural, hhead⟩
  rw [(hlast "ÉTÉ 2y" "Person" hword).1]
  decide +kernel

end Scaffold
