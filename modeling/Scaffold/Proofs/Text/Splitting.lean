/-
  Scaffold/Proofs/Text/Splitting.lean
  ===================================
  **Cutting a text at a character, and joining the parts again.**

  `splitChars` is the library's `List.splitOn`, and `joinWith` is `List.intercalate` on the
  characters. What the library knows about those two is carried over to texts here, for every glue
  that consists of the one character at which the text is cut.
-/
import Scaffold.Text

namespace Scaffold.Text

variable {sep : Char} {glue : String}

theorem splitChars_eq_splitOn (sep : Char) (cs : List Char) :
    splitChars sep cs = cs.splitOn sep := by
  induction cs with
  | nil => rfl
  | cons c cs ih =>
    rw [splitChars, ih]
    cases hcut : cs.splitOn sep with
    | nil => exact absurd hcut (List.splitOn_ne_nil sep cs)
    | cons part parts =>
      by_cases hc : (c == sep) = true
      · simp only [hc, if_true, List.splitOn_cons_eq_if_modifyHead, hcut]
      · simp only [hc, if_false, Bool.false_eq_true, List.splitOn_cons_eq_if_modifyHead, hcut,
          List.modifyHead_cons]

theorem splitOn_eq (sep : Char) (s : String) :
    splitOn sep s = (s.toList.splitOn sep).map String.ofList := by
  rw [splitOn, splitChars_eq_splitOn]

theorem splitOn_ne_nil (sep : Char) (s : String) : splitOn sep s ≠ [] := by
  rw [splitOn_eq]
  simp

theorem splitOn_append (hglue : glue.toList = [sep]) (s t : String) :
    splitOn sep (s ++ glue ++ t) = splitOn sep s ++ splitOn sep t := by
  have hchars : (s ++ glue ++ t).toList = s.toList ++ sep :: t.toList := by
    simp only [String.toList_append, hglue, List.append_assoc, List.singleton_append]
  rw [splitOn_eq, hchars, List.splitOn_append_cons_self, List.map_append, ← splitOn_eq,
    ← splitOn_eq]

theorem splitOn_of_not_mem {s : String} (h : sep ∉ s.toList) : splitOn sep s = [s] := by
  rw [splitOn_eq, List.splitOn_eq_singleton h, List.map_singleton, String.ofList_toList]

theorem toList_joinWith (sep : String) (texts : List String) :
    (joinWith sep texts).toList = sep.toList.intercalate (texts.map String.toList) := by
  induction texts with
  | nil => rfl
  | cons first rest ih =>
    cases rest with
    | nil => simp [joinWith]
    | cons next rest =>
      simp only [joinWith, String.toList_append, ih, List.map_cons, List.intercalate_cons_cons,
        List.append_assoc]

theorem joinWith_splitOn (hglue : glue.toList = [sep]) (s : String) :
    joinWith glue (splitOn sep s) = s := by
  rw [← String.toList_inj, toList_joinWith, hglue, splitOn_eq, List.map_map]
  have hid : String.toList ∘ String.ofList = id := funext fun cs => String.toList_ofList
  rw [hid, List.map_id, List.intercalate_splitOn]

theorem joinWith_append (glue : String) {texts others : List String} (htexts : texts ≠ [])
    (hothers : others ≠ []) :
    joinWith glue (texts ++ others) = joinWith glue texts ++ glue ++ joinWith glue others := by
  induction texts with
  | nil => exact absurd rfl htexts
  | cons first rest ih =>
    cases rest with
    | nil =>
      obtain ⟨next, others, rfl⟩ := List.exists_cons_of_ne_nil hothers
      simp only [List.singleton_append, joinWith]
    | cons next rest =>
      have hrest := ih (List.cons_ne_nil next rest)
      simp only [List.cons_append, joinWith, String.append_assoc] at hrest ⊢
      rw [hrest]

theorem mem_joinWith {c : Char} {glue : String} {texts : List String}
    (h : c ∈ (joinWith glue texts).toList) :
    c ∈ glue.toList ∨ ∃ text ∈ texts, c ∈ text.toList := by
  induction texts with
  | nil => simp [joinWith] at h
  | cons first rest ih =>
    cases rest with
    | nil => exact .inr ⟨first, List.mem_cons_self, h⟩
    | cons next rest =>
      simp only [joinWith, String.toList_append, List.mem_append] at h
      rcases h with (hfirst | hglue) | hrest
      · exact .inr ⟨first, List.mem_cons_self, hfirst⟩
      · exact .inl hglue
      · rcases ih hrest with hglue | ⟨text, htext, hc⟩
        · exact .inl hglue
        · exact .inr ⟨text, List.mem_cons_of_mem first htext, hc⟩

/-! ### Endings -/

theorem endsWith_iff {s ending : String} :
    endsWith s ending = true ↔ ∃ front, s = front ++ ending := by
  rw [endsWith, List.isPrefixOf_iff_prefix, List.reverse_prefix]
  constructor
  · rintro ⟨front, hfront⟩
    refine ⟨String.ofList front, ?_⟩
    rw [← String.toList_inj, String.toList_append, String.toList_ofList, hfront]
  · rintro ⟨front, rfl⟩
    exact ⟨front.toList, String.toList_append.symm⟩

end Scaffold.Text
