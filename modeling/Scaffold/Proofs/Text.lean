/-
  Scaffold/Proofs/Text.lean
  =========================
  **Laws of trimming.**

  A trimmed text has no blank at either end, so trimming it again changes nothing; neither does
  trimming a text without blanks. Blanks that are put around a text are trimmed away with its own
  (`trim_surrounded`).
-/
import Mathlib.Data.List.DropRight
import Scaffold.Text

namespace Scaffold.Text

theorem trimChars_eq (cs : List Char) :
    trimChars cs = (cs.dropWhile Letter.isBlank).rdropWhile Letter.isBlank := rfl

/-- What trimming leaves does not start with a blank. -/
theorem dropWhile_trimChars (cs : List Char) :
    (trimChars cs).dropWhile Letter.isBlank = trimChars cs := by
  rw [trimChars_eq, List.dropWhile_eq_self_iff]
  intro hlen hblank
  -- the first character is that of the text without the blanks in front
  have hpre : (cs.dropWhile Letter.isBlank).rdropWhile Letter.isBlank <+:
      cs.dropWhile Letter.isBlank := List.rdropWhile_prefix _ _
  have hlen' : 0 < (cs.dropWhile Letter.isBlank).length := Nat.lt_of_lt_of_le hlen hpre.length_le
  have hfirst := (List.dropWhile_eq_self_iff.mp
    (List.dropWhile_idempotent Letter.isBlank cs)) hlen'
  rw [hpre.getElem hlen] at hblank
  exact hfirst hblank

theorem trim_trim (s : String) : trim (trim s) = trim s := by
  unfold trim
  rw [String.toList_ofList, trimChars_eq (trimChars s.toList), dropWhile_trimChars, trimChars_eq,
    List.rdropWhile_idempotent]

/-- A text without blanks has nothing to trim. -/
theorem trim_eq_self {s : String} (h : ∀ c ∈ s.toList, Letter.isBlank c = false) : trim s = s := by
  have hfront : s.toList.dropWhile Letter.isBlank = s.toList := by
    rw [List.dropWhile_eq_self_iff]
    intro hlen
    simp [h _ (List.getElem_mem hlen)]
  have hback : s.toList.rdropWhile Letter.isBlank = s.toList := by
    rw [List.rdropWhile_eq_self_iff]
    intro hne
    simp [h _ (List.getLast_mem hne)]
  rw [trim, trimChars_eq, hfront, hback, String.ofList_toList]

/-! ### Blanks around a text -/

section Surrounded

variable {before after : List Char}

theorem rdropWhile_append_blanks (hafter : ∀ c ∈ after, Letter.isBlank c = true) (cs : List Char) :
    (cs ++ after).rdropWhile Letter.isBlank = cs.rdropWhile Letter.isBlank := by
  have hreverse : ∀ c ∈ after.reverse, Letter.isBlank c = true := fun c hc =>
    hafter c (List.mem_reverse.mp hc)
  rw [List.rdropWhile, List.reverse_append, List.dropWhile_append_of_pos hreverse, List.rdropWhile]

theorem trimChars_surrounded (hbefore : ∀ c ∈ before, Letter.isBlank c = true)
    (hafter : ∀ c ∈ after, Letter.isBlank c = true) (cs : List Char) :
    trimChars (before ++ cs ++ after) = trimChars cs := by
  rw [trimChars_eq, trimChars_eq, List.append_assoc, List.dropWhile_append_of_pos hbefore,
    List.dropWhile_append]
  by_cases hblank : (cs.dropWhile Letter.isBlank).isEmpty = true
  · -- nothing but blanks, so that those behind go with those in front
    have hgone : after.dropWhile Letter.isBlank = [] := List.dropWhile_eq_nil_iff.mpr hafter
    rw [if_pos hblank, hgone, List.isEmpty_iff.mp hblank]
  · rw [if_neg hblank]
    exact rdropWhile_append_blanks hafter _

theorem trim_surrounded (hbefore : ∀ c ∈ before, Letter.isBlank c = true)
    (hafter : ∀ c ∈ after, Letter.isBlank c = true) (s : String) :
    trim (String.ofList before ++ s ++ String.ofList after) = trim s := by
  unfold trim
  rw [String.toList_append, String.toList_append, String.toList_ofList, String.toList_ofList,
    trimChars_surrounded hbefore hafter]

end Surrounded

end Scaffold.Text
