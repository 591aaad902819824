/-
  Scaffold/Proofs/Name/Identifier.lean
  ====================================
  **Identifiers and the names derived from them.**

  An identifier is ASCII, so a fact about its characters is a fact about 128 code points. From that
  follows what every accepted entity name gives without further input:

    * its English plural is an identifier that starts with the same character (`isIdentifier_of`);
    * its default lambda parameter is an identifier, no keyword and no reserved local
      (`isIdentifier_defaultLambda`, `isKeyword_defaultLambda`, `isReserved_defaultLambda`).
-/
import Scaffold.Name

namespace Scaffold

/-! ### ASCII characters -/

namespace Letter

/-- What holds of the first 128 code points holds of every ASCII character. -/
theorem of_isAscii {P : Char → Prop} (h : ∀ n < 128, P (Char.ofNat n)) {c : Char}
    (hc : isAscii c = true) : P c := by
  have hlt : c.toNat < 128 := by simpa [isAscii] using hc
  have hP := h c.toNat hlt
  rwa [Char.ofNat_toNat] at hP

end Letter

namespace Name

theorem isAscii_of_isPart {c : Char} (h : isPart c = true) : Letter.isAscii c = true := by
  have hle : ∀ a b : Char, a ≤ b ↔ a.toNat ≤ b.toNat := fun a b => by
    rw [Char.le_def, UInt32.le_iff_toNat_le]; rfl
  simp only [isPart, isStart, Letter.isAsciiLetter, Letter.isAsciiUpper, Letter.isAsciiLower,
    Letter.isAsciiDigit, Bool.or_eq_true, Bool.and_eq_true, decide_eq_true_eq, beq_iff_eq,
    hle] at h
  simp only [Letter.isAscii, decide_eq_true_eq]
  have hZ : 'Z'.toNat = 90 := rfl
  have hz : 'z'.toNat = 122 := rfl
  have h9 : '9'.toNat = 57 := rfl
  rcases h with ((⟨_, h⟩ | ⟨_, h⟩) | rfl) | ⟨_, h⟩
  · omega
  · omega
  · decide
  · omega

theorem isPart_of_isStart {c : Char} (h : isStart c = true) : isPart c = true := by
  simp [isPart, h]

theorem isStart_asciiLower {c : Char} (h : isStart c = true) :
    isStart (Letter.asciiLower c) = true :=
  Letter.of_isAscii (P := fun c => isStart c = true → isStart (Letter.asciiLower c) = true)
    (by decide) (isAscii_of_isPart (isPart_of_isStart h)) h

/-! ### Texts that are identifiers -/

/-- The characters of an identifier. -/
def IsWord (cs : List Char) : Prop :=
  (∃ c, cs.head? = some c ∧ isStart c = true) ∧ ∀ c ∈ cs, isPart c = true

theorem isIdentifier_iff {s : String} : isIdentifier s = true ↔ IsWord s.toList := by
  unfold isIdentifier IsWord
  cases s.toList with
  | nil => simp
  | cons c cs =>
    constructor
    · intro h
      simp only [Bool.and_eq_true, List.all_eq_true] at h
      refine ⟨⟨c, rfl, h.1⟩, ?_⟩
      intro x hx
      rcases List.mem_cons.mp hx with rfl | hx
      · exact isPart_of_isStart h.1
      · exact h.2 x hx
    · rintro ⟨⟨d, hd, hstart⟩, hparts⟩
      obtain rfl : c = d := by simpa using hd
      simp only [Bool.and_eq_true, List.all_eq_true]
      exact ⟨hstart, fun x hx => hparts x (List.mem_cons_of_mem _ hx)⟩

theorem ne_empty_of_isIdentifier {s : String} (h : isIdentifier s = true) : s ≠ "" := by
  rintro rfl
  exact absurd h (by decide)

end Name

/-! ### Plurals -/

namespace Plural

theorem splitAtCapital_append (cs : List Char) :
    (splitAtCapital cs).1 ++ (splitAtCapital cs).2 = cs := by
  induction cs with
  | nil => rfl
  | cons c cs ih =>
    rw [splitAtCapital]
    rcases hcut : splitAtCapital cs with ⟨_ | ⟨d, head⟩, _ | ⟨x, last⟩⟩ <;> rw [hcut] at ih
    · simpa using ih
    · by_cases hx : Letter.isUpper x = true
      · simpa [hx] using ih
      · simpa [hx] using ih
    · simpa using ih
    · simpa using ih

theorem splitAtCapital_last_ne_nil {cs : List Char} (h : cs ≠ []) : (splitAtCapital cs).2 ≠ [] := by
  induction cs with
  | nil => exact absurd rfl h
  | cons c cs ih =>
    rw [splitAtCapital]
    rcases hcut : splitAtCapital cs with ⟨_ | ⟨d, head⟩, _ | ⟨x, last⟩⟩
    · simp
    · by_cases hx : Letter.isUpper x = true <;> simp [hx]
    · -- the head is not empty, so there is something to cut, and a last word
      have hne : cs ≠ [] := by
        have happ := splitAtCapital_append cs
        rw [hcut] at happ
        rintro rfl
        simp at happ
      simpa [hcut] using ih hne
    · simp

/-- The plural of the last word of a name. -/
def inflected (word : List Char) : List Char :=
  let small := String.ofList (word.map Letter.asciiLower)
  if uncountable.contains small then word
  else match irregular.lookup small with
    | some plural => (matchCase word plural).toList
    | none => regular word

/-- Only the last word of a name is inflected. -/
theorem toList_of {name : String} (h : name ≠ "") :
    (of name).toList =
      (splitAtCapital name.toList).1 ++ inflected (splitAtCapital name.toList).2 := by
  have hne : name.isEmpty = false := String.isEmpty_eq_false_iff.mpr h
  simp only [of, hne, Bool.false_eq_true, if_false, inflected]
  by_cases hsame : uncountable.contains
      (String.ofList ((splitAtCapital name.toList).2.map Letter.asciiLower)) = true
  · simp only [hsame, if_true]
    exact (splitAtCapital_append name.toList).symm
  · simp only [hsame, if_false, Bool.false_eq_true]
    cases irregular.lookup
        (String.ofList ((splitAtCapital name.toList).2.map Letter.asciiLower)) with
    | none => simp
    | some plural => simp

/-- An irregular plural starts like its singular and is written in small letters. -/
theorem irregular_starts_alike : ∀ p ∈ irregular,
    p.2.toList.head? = p.1.toList.head? ∧ p.2.toList.all Letter.isAsciiLower = true := by
  decide

theorem isPart_of_isAsciiLower {c : Char} (h : Letter.isAsciiLower c = true) :
    Name.isPart c = true := by
  simp [Name.isPart, Name.isStart, Letter.isAsciiLetter, h]

/-- Giving the small form of a character its case back gives the character. -/
theorem recased {c : Char} (h : Letter.isAscii c = true) :
    (if Letter.isUpper c then Letter.toUpper (Letter.asciiLower c) else [Letter.asciiLower c]) =
      [c] := by
  refine Letter.of_isAscii (P := fun c =>
    (if Letter.isUpper c then Letter.toUpper (Letter.asciiLower c) else [Letter.asciiLower c]) =
      [c]) ?_ h
  decide

/-- An irregular plural that takes over the case of its singular starts with the same character. -/
theorem toList_matchCase {c : Char} {cs : List Char} {plural : String}
    (hc : Letter.isAscii c = true)
    (hirregular :
      irregular.lookup (String.ofList ((c :: cs).map Letter.asciiLower)) = some plural) :
    ∃ rest, (matchCase (c :: cs) plural).toList = c :: rest ∧
      ∀ x ∈ rest, Name.isPart x = true := by
  obtain ⟨before, after, hmem, -⟩ := List.lookup_eq_some_iff.mp hirregular
  obtain ⟨hhead, hall⟩ := irregular_starts_alike
    (String.ofList ((c :: cs).map Letter.asciiLower), plural) (by rw [hmem]; simp)
  simp only [String.toList_ofList, List.map_cons, List.head?_cons] at hhead
  obtain ⟨rest, hrest⟩ : ∃ rest, plural.toList = Letter.asciiLower c :: rest :=
    List.head?_eq_some_iff.mp hhead
  have hsmall : ∀ x ∈ plural.toList, Letter.isAsciiLower x = true := List.all_eq_true.mp hall
  refine ⟨rest, ?_, fun x hx => isPart_of_isAsciiLower (hsmall x (by simp [hrest, hx]))⟩
  have hcase := recased hc
  by_cases hupper : Letter.isUpper c = true
  · simp only [hupper, if_true] at hcase
    simp [matchCase, hupper, Text.upperFirst, hrest, hcase]
  · simp only [hupper, if_false, Bool.false_eq_true, List.cons.injEq, and_true] at hcase
    simp [matchCase, hupper, hrest, hcase]

/-- A regular plural starts with the same character as the word. -/
theorem regular_cons {c : Char} {cs : List Char} (h : ∀ x ∈ c :: cs, Name.isPart x = true) :
    ∃ rest, regular (c :: cs) = c :: rest ∧ ∀ x ∈ rest, Name.isPart x = true := by
  have htail : ∀ x ∈ cs, Name.isPart x = true := fun x hx => h x (List.mem_cons_of_mem _ hx)
  have hending : ∀ (kept ending : List Char), (∀ x ∈ kept, x ∈ cs) →
      ending.all Name.isPart = true → ∀ x ∈ kept ++ ending, Name.isPart x = true := by
    intro kept ending hkept hparts x hx
    rcases List.mem_append.mp hx with hx | hx
    · exact htail x (hkept x hx)
    · exact List.all_eq_true.mp hparts x hx
  unfold regular
  by_cases hy : endsInConsonantY ((c :: cs).map Letter.asciiLower) = true
  · -- a word of one letter has nothing before its last letter, so there is a second one
    obtain ⟨d, ds, rfl⟩ : ∃ d ds, cs = d :: ds := by
      cases cs with
      | nil => simp [endsInConsonantY] at hy
      | cons d ds => exact ⟨d, ds, rfl⟩
    refine ⟨(d :: ds).dropLast ++ "ies".toList, by rw [if_pos hy]; rfl, ?_⟩
    exact hending _ _ (fun x hx => List.dropLast_subset _ hx) (by decide)
  · simp only [hy, if_false, Bool.false_eq_true]
    split
    · exact ⟨cs ++ "es".toList, by simp, hending _ _ (fun _ hx => hx) (by decide)⟩
    · exact ⟨cs ++ "s".toList, by simp, hending _ _ (fun _ hx => hx) (by decide)⟩

/-- The plural of a word starts with the same character and goes on as a name may. -/
theorem inflected_cons {c : Char} {cs : List Char} (h : ∀ x ∈ c :: cs, Name.isPart x = true) :
    ∃ rest, inflected (c :: cs) = c :: rest ∧ ∀ x ∈ rest, Name.isPart x = true := by
  simp only [inflected]
  split
  · exact ⟨cs, rfl, fun x hx => h x (List.mem_cons_of_mem _ hx)⟩
  · split
    · next plural hirregular =>
      exact toList_matchCase (Name.isAscii_of_isPart (h c (by simp))) hirregular
    · exact regular_cons h

/-- The plural of an identifier is an identifier with the same first character. -/
theorem isWord_of {name : String} (h : Name.isIdentifier name = true) :
    Name.IsWord (of name).toList ∧ (of name).toList.head? = name.toList.head? := by
  obtain ⟨⟨c, hc, hstart⟩, hparts⟩ := Name.isIdentifier_iff.mp h
  have hcut := splitAtCapital_append name.toList
  have hlast : (splitAtCapital name.toList).2 ≠ [] :=
    splitAtCapital_last_ne_nil (by rintro hnil; rw [hnil] at hc; cases hc)
  obtain ⟨d, ds, hd⟩ := List.exists_cons_of_ne_nil hlast
  obtain ⟨rest, hrest, hrestParts⟩ := inflected_cons (fun (x : Char) (hx : x ∈ d :: ds) =>
    hparts x (by rw [← hcut, hd]; exact List.mem_append_right _ hx))
  have hof : (of name).toList = (splitAtCapital name.toList).1 ++ d :: rest := by
    rw [toList_of (Name.ne_empty_of_isIdentifier h), hd, hrest]
  have hname : name.toList = (splitAtCapital name.toList).1 ++ d :: ds := by rw [← hd, hcut]
  have hhead : (of name).toList.head? = name.toList.head? := by
    calc (of name).toList.head?
        = ((splitAtCapital name.toList).1 ++ d :: rest).head? := by rw [hof]
      _ = ((splitAtCapital name.toList).1 ++ d :: ds).head? := by
          cases (splitAtCapital name.toList).1 <;> rfl
      _ = name.toList.head? := by rw [← hname]
  refine ⟨⟨⟨c, by rw [hhead, hc], hstart⟩, ?_⟩, hhead⟩
  intro x hx
  rw [hof] at hx
  rcases List.mem_append.mp hx with hx | hx
  · exact hparts x (by rw [hname]; exact List.mem_append_left _ hx)
  · rcases List.mem_cons.mp hx with rfl | hx
    · exact hparts x (by rw [hname]; simp)
    · exact hrestParts x hx

theorem isIdentifier_of {name : String} (h : Name.isIdentifier name = true) :
    Name.isIdentifier (of name) = true :=
  Name.isIdentifier_iff.mpr (isWord_of h).1

end Plural

/-! ### The default lambda parameter -/

namespace Name

/-- The default lambda parameter of an identifier is one character that may start a name. -/
theorem defaultLambda_eq {name : String} (h : isIdentifier name = true) :
    ∃ c, isStart c = true ∧ defaultLambda name = String.ofList [c] := by
  obtain ⟨⟨c, hc, hstart⟩, -⟩ := isIdentifier_iff.mp h
  obtain ⟨rest, hrest⟩ := List.head?_eq_some_iff.mp hc
  have hascii : Letter.isAscii c = true := isAscii_of_isPart (isPart_of_isStart hstart)
  exact ⟨Letter.asciiLower c, isStart_asciiLower hstart,
    by simp [defaultLambda, hrest, Letter.toLower, hascii]⟩

theorem isIdentifier_defaultLambda {name : String} (h : isIdentifier name = true) :
    isIdentifier (defaultLambda name) = true := by
  obtain ⟨c, hstart, heq⟩ := defaultLambda_eq h
  simp [heq, isIdentifier, hstart]

/-- Keywords and reserved locals are longer than one character. -/
theorem one_lt_length_of_mem : ∀ word ∈ keywords ++ reservedLocals, 1 < word.toList.length := by
  decide

theorem not_mem_of_single (c : Char) : String.ofList [c] ∉ keywords ++ reservedLocals := by
  intro hmem
  have hlong := one_lt_length_of_mem _ hmem
  simp at hlong

theorem isKeyword_defaultLambda {name : String} (h : isIdentifier name = true) :
    isKeyword (defaultLambda name) = false := by
  obtain ⟨c, -, heq⟩ := defaultLambda_eq h
  rw [heq, isKeyword, List.contains_eq_mem, decide_eq_false_iff_not]
  exact fun hmem => not_mem_of_single c (List.mem_append_left _ hmem)

theorem isReserved_defaultLambda {name : String} (h : isIdentifier name = true) :
    isReserved (defaultLambda name) = false := by
  obtain ⟨c, -, heq⟩ := defaultLambda_eq h
  rw [heq, isReserved, List.contains_eq_mem, decide_eq_false_iff_not]
  exact fun hmem => not_mem_of_single c (List.mem_append_right _ hmem)

end Name

end Scaffold
