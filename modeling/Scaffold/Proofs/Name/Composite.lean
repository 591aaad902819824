/-
  Scaffold/Proofs/Name/Composite.lean
  ===================================
  **Names that are put together from names.**

  An identifier stays one when letters, digits and underscores are added behind it, so every class
  name derived from an entity is an identifier (`isIdentifier_className`). Identifiers with dots
  between them are dotted names, and dotted names with a dot between them are a dotted name again;
  a dotted name is a plain piece of a path (`isPlain_of_isDotted`).
-/
import Scaffold.Artifact
import Scaffold.Proofs.Name.Identifier
import Scaffold.Proofs.Path

namespace Scaffold

namespace Name

/-! ### Identifiers -/

theorem isPart_of_mem {s : String} (h : isIdentifier s = true) :
    ∀ c ∈ s.toList, isPart c = true :=
  (isIdentifier_iff.mp h).2

theorem isIdentifier_append {s t : String} (hs : isIdentifier s = true)
    (ht : ∀ c ∈ t.toList, isPart c = true) : isIdentifier (s ++ t) = true := by
  rw [isIdentifier_iff] at hs ⊢
  obtain ⟨⟨c, hhead, hstart⟩, hparts⟩ := hs
  rw [String.toList_append]
  constructor
  · refine ⟨c, ?_, hstart⟩
    rw [List.head?_append, hhead]
    rfl
  · intro x hx
    rcases List.mem_append.mp hx with hx | hx
    · exact hparts x hx
    · exact ht x hx

theorem isIdentifier_append_identifier {s t : String} (hs : isIdentifier s = true)
    (ht : isIdentifier t = true) : isIdentifier (s ++ t) = true :=
  isIdentifier_append hs (isPart_of_mem ht)

/-- Making the first letter of an identifier small leaves the others. -/
theorem toList_lowerFirst {s : String} (h : isIdentifier s = true) :
    ∃ c cs, s.toList = c :: cs ∧ isStart c = true ∧
      (Text.lowerFirst s).toList = Letter.asciiLower c :: cs := by
  obtain ⟨⟨c, hhead, hstart⟩, -⟩ := isIdentifier_iff.mp h
  obtain ⟨cs, hcs⟩ := List.head?_eq_some_iff.mp hhead
  have hascii : Letter.isAscii c = true := isAscii_of_isPart (isPart_of_isStart hstart)
  refine ⟨c, cs, hcs, hstart, ?_⟩
  unfold Text.lowerFirst
  rw [hcs]
  simp [Letter.toLower, hascii]

theorem isIdentifier_lowerFirst {s : String} (h : isIdentifier s = true) :
    isIdentifier (Text.lowerFirst s) = true := by
  obtain ⟨c, cs, hs, hstart, hlower⟩ := toList_lowerFirst h
  have hsmall : isStart (Letter.asciiLower c) = true := isStart_asciiLower hstart
  rw [isIdentifier_iff, hlower]
  refine ⟨⟨_, rfl, hsmall⟩, ?_⟩
  intro x hx
  rcases List.mem_cons.mp hx with rfl | hx
  · exact isPart_of_isStart hsmall
  · exact isPart_of_mem h x (hs ▸ List.mem_cons_of_mem c hx)

/-- Letters made small are letters. -/
theorem isPart_asciiLower {name : String} (h : isIdentifier name = true) :
    ∀ c ∈ (Text.asciiLower name).toList, isPart c = true := by
  intro c hc
  rw [Text.asciiLower, String.toList_ofList] at hc
  obtain ⟨given, hgiven, rfl⟩ := List.mem_map.mp hc
  have hpart : isPart given = true := isPart_of_mem h given hgiven
  exact Letter.of_isAscii (P := fun c => isPart c = true → isPart (Letter.asciiLower c) = true)
    (by decide) (isAscii_of_isPart hpart) hpart

/-- A local is an identifier, or a keyword behind the sign that makes it one. -/
theorem isPart_or_escape {entity : String} (lambda : String) (h : isIdentifier entity = true) :
    ∀ c ∈ (localVariable entity lambda).toList, isPart c = true ∨ c = '@' := by
  have hlower : ∀ c ∈ (Text.lowerFirst entity).toList, isPart c = true :=
    isPart_of_mem (isIdentifier_lowerFirst h)
  have hsuffix : ∀ c ∈ "Entity".toList, isPart c = true := isPart_of_mem (by decide)
  unfold localVariable
  dsimp only
  intro c hc
  split at hc
  · rw [String.toList_append] at hc
    rcases List.mem_append.mp hc with hc | hc
    · exact .inl (hlower c hc)
    · exact .inl (hsuffix c hc)
  · split at hc
    · rw [String.toList_append] at hc
      rcases List.mem_append.mp hc with hc | hc
      · exact .inr (List.mem_singleton.mp hc)
      · exact .inl (hlower c hc)
    · exact .inl (hlower c hc)

/-! ### Dotted names -/

theorem toList_dot : ".".toList = ['.'] := rfl

theorem ne_dot_of_isPart {c : Char} (h : isPart c = true) : c ≠ '.' := by
  rintro rfl
  exact absurd h (by decide)

theorem isDotted_of_isIdentifier {s : String} (h : isIdentifier s = true) : isDotted s = true := by
  have hdot : '.' ∉ s.toList := fun hmem => ne_dot_of_isPart (isPart_of_mem h '.' hmem) rfl
  rw [isDotted, Text.splitOn_of_not_mem hdot, List.all_cons, h, List.all_nil, Bool.and_true]

theorem isDotted_append {s t : String} (hs : isDotted s = true) (ht : isDotted t = true) :
    isDotted (s ++ "." ++ t) = true := by
  unfold isDotted at hs ht ⊢
  rw [Text.splitOn_append toList_dot, List.all_append, hs, ht, Bool.and_true]

theorem isDotted_joinWith {names : List String} (hne : names ≠ [])
    (h : ∀ name ∈ names, isDotted name = true) : isDotted (Text.joinWith "." names) = true := by
  induction names with
  | nil => exact absurd rfl hne
  | cons first rest ih =>
    have hfirst : isDotted first = true := h first List.mem_cons_self
    cases rest with
    | nil => exact hfirst
    | cons next rest =>
      have hrest : isDotted (Text.joinWith "." (next :: rest)) = true :=
        ih (List.cons_ne_nil next rest) fun name hname => h name (List.mem_cons_of_mem first hname)
      exact isDotted_append hfirst hrest

theorem isPart_or_dot {s : String} (h : isDotted s = true) {c : Char} (hc : c ∈ s.toList) :
    isPart c = true ∨ c = '.' := by
  rw [← Text.joinWith_splitOn toList_dot s] at hc
  rcases Text.mem_joinWith hc with hdot | ⟨part, hpart, hc⟩
  · exact .inr (by simpa [toList_dot] using hdot)
  · exact .inl (isPart_of_mem (List.all_eq_true.mp h part hpart) c hc)

theorem not_separator_of_isPart (c : Char) (h : isPart c = true) : c ≠ '/' ∧ c ≠ '\\' := by
  constructor
  · rintro rfl
    cases h
  · rintro rfl
    cases h

/-- A dotted name names one directory or file. -/
theorem isPlain_of_isDotted {s : String} (h : isDotted s = true) : Path.IsPlain s := by
  have hnot : ∀ c, isPart c = false → c ≠ '.' → c ∉ s.toList := by
    intro c hpart hdot hc
    rcases isPart_or_dot h hc with hc | hc
    · exact absurd hc (by simp [hpart])
    · exact hdot hc
  constructor
  · rintro rfl
    exact absurd h (by decide)
  · rintro rfl
    exact absurd h (by decide)
  · rintro rfl
    exact absurd h (by decide)
  · exact hnot '/' (by decide) (by decide)
  · exact hnot '\\' (by decide) (by decide)

end Name

/-! ### Classes and files -/

namespace ArtifactKind

/-- What the class of a kind has in front of the entity's name. -/
def before : ArtifactKind → String
  | deleteFeature | deleteCommandTest => "Delete"
  | updateEntityTest => "Update"
  | entityFaker | creationDtoFaker | updateDtoFaker => "Fake"

/-- What it has behind it. -/
def behind : ArtifactKind → String
  | deleteFeature | entityFaker => ""
  | deleteCommandTest => "CommandTests"
  | updateEntityTest => "Tests"
  | creationDtoFaker => DtoShape.creation.suffix
  | updateDtoFaker => DtoShape.update.suffix

theorem className_eq (kind : ArtifactKind) (entity : String) :
    kind.className entity = kind.before ++ entity ++ kind.behind := by
  cases kind with
  | deleteFeature => exact String.append_empty.symm
  | deleteCommandTest => rfl
  | updateEntityTest => rfl
  | entityFaker => exact String.append_empty.symm
  | creationDtoFaker => exact String.append_assoc.symm
  | updateDtoFaker => exact String.append_assoc.symm

theorem isIdentifier_before (kind : ArtifactKind) : Name.isIdentifier kind.before = true := by
  cases kind <;> decide

theorem isPart_behind (kind : ArtifactKind) : ∀ c ∈ kind.behind.toList, Name.isPart c = true := by
  have hall : kind.behind.toList.all Name.isPart = true := by cases kind <;> decide +kernel
  exact List.all_eq_true.mp hall

theorem className_ne_empty (kind : ArtifactKind) (entity : String) :
    kind.className entity ≠ "" := by
  rw [className_eq]
  intro hempty
  have hfront := (String.append_eq_empty_iff.mp (String.append_eq_empty_iff.mp hempty).1).1
  exact Name.ne_empty_of_isIdentifier (isIdentifier_before kind) hfront

theorem isIdentifier_className {entity : String} (h : Name.isIdentifier entity = true)
    (kind : ArtifactKind) : Name.isIdentifier (kind.className entity) = true := by
  rw [className_eq]
  exact Name.isIdentifier_append
    (Name.isIdentifier_append_identifier (isIdentifier_before kind) h) (isPart_behind kind)

/-- The file of a kind has separators only where the entity's name has them. -/
theorem forall_mem_fileName_iff {P : Char → Prop} (hparts : ∀ c, Name.isPart c = true → P c)
    (hdot : P '.') (kind : ArtifactKind) (entity : String) :
    (∀ c ∈ (kind.fileName entity).toList, P c) ↔ ∀ c ∈ entity.toList, P c := by
  have hbefore : ∀ c ∈ kind.before.toList, P c := fun c hc =>
    hparts c (Name.isPart_of_mem (isIdentifier_before kind) c hc)
  have hbehind : ∀ c ∈ kind.behind.toList, P c := fun c hc => hparts c (isPart_behind kind c hc)
  have hending : ∀ c ∈ ".cs".toList, P c := by
    intro c hc
    rcases List.mem_cons.mp hc with rfl | hc
    · exact hdot
    · have hword : Name.isIdentifier "cs" = true := by decide
      exact hparts c (Name.isPart_of_mem hword c hc)
  unfold fileName
  rw [className_eq]
  simp only [String.toList_append, List.forall_mem_append]
  exact ⟨fun h => h.1.1.2, fun h => ⟨⟨⟨hbefore, h⟩, hbehind⟩, hending⟩⟩

end ArtifactKind

end Scaffold
