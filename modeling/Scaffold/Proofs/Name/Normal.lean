/-
  Scaffold/Proofs/Name/Normal.lean
  ================================
  **Normalising is stable on names.**

  `Name.pascal` is applied to any text, and makes a name of it or something that is none. A name is
  in normal form (`Name.isPascal_pascal`), and a normal form is left alone (`IsPascal.pascal_eq`);
  what is no name may become another text when it is normalised again: `2 a b` becomes `2AB`, and
  that `2ab`. It does no harm, since no draft that gives such a text is built
  (`Draft.not_built_of_given`). The listing of file names has no draft to check; which names it lets
  through is told in `Scaffold.Proofs.Listing`.
-/
import Scaffold.Proofs.Entity.Building
import Scaffold.Proofs.Name.Pascal

namespace Scaffold

namespace Name

theorem pascal_surrounded {before after : List Char}
    (hbefore : ∀ c ∈ before, Letter.isBlank c = true)
    (hafter : ∀ c ∈ after, Letter.isBlank c = true) (s : String) :
    pascal (String.ofList before ++ s ++ String.ofList after) = pascal s := by
  simp only [pascal, Text.trim_surrounded hbefore hafter]

theorem IsPascal.exists_capital {s : String} (h : IsPascal s) :
    ∃ c, s.toList.head? = some c ∧ 'A' ≤ c ∧ c ≤ 'Z' := by
  obtain ⟨c, hhead, hupper⟩ := h.capital
  rw [Letter.isAsciiUpper, Bool.and_eq_true, decide_eq_true_eq, decide_eq_true_eq] at hupper
  exact ⟨c, hhead, hupper⟩

end Name

/-! ### Drafts with a text that is no name -/

namespace Draft

/-- The names that a draft gives, before they are normalised; a blank plural is none. -/
def givenNames (d : Draft) : List String :=
  d.name :: d.chosenPlural.toList ++ d.properties.flatMap fun p => p.name :: p.parent.toList

variable {d : Draft}

theorem Admissible.isIdentifier_given (h : d.Admissible) {s : String} (given : s ∈ d.givenNames) :
    Name.isIdentifier (Name.pascal s) = true := by
  rcases List.mem_append.mp given with hentity | hproperties
  · rcases List.mem_cons.mp hentity with rfl | hplural
    · exact h.name
    · have hchosen : d.chosenPlural = some s := Option.mem_toList.mp hplural
      have hidentifier := h.plural
      rwa [entityPlural, hchosen, Option.elim_some] at hidentifier
  · obtain ⟨p, hp, hname⟩ := List.mem_flatMap.mp hproperties
    obtain ⟨hnamed, hparent⟩ := h.properties p hp
    rcases List.mem_cons.mp hname with rfl | hforeign
    · exact hnamed
    · exact hparent s (Option.mem_toList.mp hforeign)

theorem not_built_of_given {s : String} (h : Name.isIdentifier (Name.pascal s) = false)
    (given : s ∈ d.givenNames) : ∃ cause, d.build = .error cause := by
  cases build : d.build with
  | error cause => exact ⟨cause, rfl⟩
  | ok e =>
    have hname := (admissible_of_build build).isIdentifier_given given
    rw [h] at hname
    cases hname

end Draft

/-- **Normalising is stable on names.** Blanks around a text make no difference. A text that becomes
an identifier becomes one that starts with a capital from `A` to `Z` and that normalising leaves
alone. A text that does not is no name: every draft that gives it is refused. -/
theorem pascal_stable_on_names (s : String) :
    (∀ before after : List Char, (∀ c ∈ before, Letter.isBlank c = true) →
      (∀ c ∈ after, Letter.isBlank c = true) →
      Name.pascal (String.ofList before ++ s ++ String.ofList after) = Name.pascal s) ∧
    (Name.isIdentifier (Name.pascal s) = true →
      (∃ c, (Name.pascal s).toList.head? = some c ∧ 'A' ≤ c ∧ c ≤ 'Z') ∧
      Name.pascal (Name.pascal s) = Name.pascal s) ∧
    (Name.isIdentifier (Name.pascal s) = false → ∀ d : Draft, s ∈ d.givenNames →
      ∃ cause, d.build = .error cause) := by
  refine ⟨?_, ?_, ?_⟩
  · intro before after hbefore hafter
    exact Name.pascal_surrounded hbefore hafter s
  · intro hidentifier
    have hnormal : Name.IsPascal (Name.pascal s) := Name.isPascal_pascal hidentifier
    exact ⟨hnormal.exists_capital, hnormal.pascal_eq⟩
  · intro hnone d given
    exact Draft.not_built_of_given hnone given

/-- Capitals of letters outside ASCII open the words of a name, with blanks of any kind around it. A
text that becomes no name changes when it is normalised again, and is refused as a parent. -/
theorem sale_id_stable :
    let before := ['\u2003', ' ']
    let after := ['\t', '\u00a0']
    let key : Property := { name := "id", type := .guid, isKey := true }
    let d : Draft := { name := "order", properties := [{ key with parent := some "2 a b" }] }
    (∀ c ∈ before, Letter.isBlank c = true) ∧ (∀ c ∈ after, Letter.isBlank c = true) ∧
      Name.pascal (String.ofList before ++ "ſale_ıd" ++ String.ofList after) = "SaleId" ∧
      Name.isIdentifier (Name.pascal "ſale_ıd") = true ∧
      (∃ c, (Name.pascal "ſale_ıd").toList.head? = some c ∧ 'A' ≤ c ∧ c ≤ 'Z') ∧
      Name.pascal "SaleId" = "SaleId" ∧
      Name.pascal "2 a b" = "2AB" ∧ Name.isIdentifier "2AB" = false ∧ Name.pascal "2AB" = "2ab" ∧
      "2 a b" ∈ d.givenNames ∧ ∃ cause, d.build = .error cause := by
  intro before after key d
  have hbefore : ∀ c ∈ before, Letter.isBlank c = true := List.all_eq_true.mp (by decide +kernel)
  have hafter : ∀ c ∈ after, Letter.isBlank c = true := List.all_eq_true.mp (by decide +kernel)
  have hname : Name.pascal "ſale_ıd" = "SaleId" := by decide +kernel
  have hidentifier : Name.isIdentifier (Name.pascal "ſale_ıd") = true := by decide +kernel
  obtain ⟨hblanks, hnormal, -⟩ := pascal_stable_on_names "ſale_ıd"
  obtain ⟨hcapital, hagain⟩ := hnormal hidentifier
  have hnumber : Name.pascal "2 a b" = "2AB" := by decide +kernel
  have hnone : Name.isIdentifier "2AB" = false := by decide
  have hgiven : "2 a b" ∈ d.givenNames := by decide +kernel
  obtain ⟨-, -, hrefused⟩ := pascal_stable_on_names "2 a b"
  rw [hnumber] at hrefused
  rw [hname] at hagain
  exact ⟨hbefore, hafter, (hblanks before after hbefore hafter).trans hname, hidentifier, hcapital,
    hagain, hnumber, hnone, by decide +kernel, hgiven, hrefused hnone d hgiven⟩

end Scaffold
