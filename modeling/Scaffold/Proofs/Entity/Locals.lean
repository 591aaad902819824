/-
  Scaffold/Proofs/Entity/Locals.lean
  ==================================
  **The local of an entity beside the names around it.**

  `Name.localVariable` makes the first letter of the entity's name small and then mends the result in
  one of two ways. A mended name is not looked at again. It does not have to be for the keywords and
  the locals of the tests: none of these words ends in `Entity` or starts with `@`
  (`localVariable_free`). It would have to be for the lambda parameter, which may end in `Entity`
  itself. So a local that is mended because a local of the tests is called like it can run into the
  lambda parameter, and no other local can (`localVariable_eq_lambda_iff`).
-/
import Scaffold.Proofs.Entity.Names

namespace Scaffold

namespace Name

/-- The words that a local of a generated test must not be. -/
def takenWords : List String := keywords ++ reservedLocals

theorem mem_takenWords_iff {s : String} :
    s ∈ takenWords ↔ isKeyword s = true ∨ isReserved s = true := by
  simp [takenWords, isKeyword, isReserved]

theorem not_mem_takenWords_iff {s : String} :
    s ∉ takenWords ↔ isKeyword s = false ∧ isReserved s = false := by
  rw [mem_takenWords_iff, not_or, Bool.not_eq_true, Bool.not_eq_true]

theorem takenWords_not_suffixed : ∀ word ∈ takenWords, Text.endsWith word "Entity" = false := by
  decide +kernel

theorem takenWords_not_escaped : ∀ word ∈ takenWords, word.toList.head? ≠ some '@' := by
  decide +kernel

section Local

variable (entity lambda : String)

/-- The three ways to a local. -/
theorem localVariable_cases :
    ((Text.lowerFirst entity = lambda ∨ isReserved (Text.lowerFirst entity) = true) ∧
      localVariable entity lambda = Text.lowerFirst entity ++ "Entity") ∨
    (Text.lowerFirst entity ≠ lambda ∧ isReserved (Text.lowerFirst entity) = false) ∧
      (localVariable entity lambda = "@" ++ Text.lowerFirst entity ∨
        isKeyword (Text.lowerFirst entity) = false ∧
          localVariable entity lambda = Text.lowerFirst entity) := by
  unfold localVariable
  by_cases hclash : (Text.lowerFirst entity == lambda || isReserved (Text.lowerFirst entity)) = true
  · left
    refine ⟨?_, if_pos hclash⟩
    simpa using hclash
  · right
    refine ⟨by simpa using hclash, ?_⟩
    rw [if_neg hclash]
    by_cases hkeyword : isKeyword (Text.lowerFirst entity) = true
    · exact .inl (if_pos hkeyword)
    · exact .inr ⟨by simpa using hkeyword, if_neg hkeyword⟩

/-- No local is a keyword or a local of the tests, whatever the names of entity and parameter. -/
theorem localVariable_free :
    isKeyword (localVariable entity lambda) = false ∧
      isReserved (localVariable entity lambda) = false := by
  rw [← not_mem_takenWords_iff]
  rcases localVariable_cases entity lambda with ⟨-, heq⟩ | ⟨⟨-, hreserved⟩, heq | ⟨hkeyword, heq⟩⟩
  · intro hmem
    have hends : Text.endsWith (localVariable entity lambda) "Entity" = true :=
      Text.endsWith_iff.mpr ⟨_, heq⟩
    rw [takenWords_not_suffixed _ hmem] at hends
    cases hends
  · intro hmem
    refine takenWords_not_escaped _ hmem ?_
    rw [heq, String.toList_append]
    rfl
  · rw [heq]
    exact not_mem_takenWords_iff.mpr ⟨hkeyword, hreserved⟩

variable {lambda}

/-- A local runs into the lambda parameter only where it is mended for another reason. -/
theorem localVariable_eq_lambda_iff (hlambda : isIdentifier lambda = true) :
    localVariable entity lambda = lambda ↔
      isReserved (Text.lowerFirst entity) = true ∧ lambda = Text.lowerFirst entity ++ "Entity" := by
  rcases localVariable_cases entity lambda with ⟨hclash, heq⟩ | ⟨⟨hne, hreserved⟩, heq⟩
  · constructor
    · intro hsame
      have hsuffixed : lambda = Text.lowerFirst entity ++ "Entity" := hsame.symm.trans heq
      refine ⟨hclash.resolve_left ?_, hsuffixed⟩
      -- nothing is itself with `Entity` behind it
      intro hself
      have hlength := congrArg String.length hsuffixed
      have hsix : "Entity".length = 6 := by decide
      rw [hself, String.length_append] at hlength
      omega
    · rintro ⟨-, hsuffixed⟩
      exact heq.trans hsuffixed.symm
  · constructor
    · intro hsame
      rcases heq with heq | ⟨-, heq⟩
      · obtain ⟨⟨c, hhead, hstart⟩, -⟩ := isIdentifier_iff.mp hlambda
        rw [← hsame, heq, String.toList_append] at hhead
        obtain rfl : '@' = c := by simpa using hhead
        exact absurd hstart (by decide)
      · exact absurd (heq.symm.trans hsame) hne
    · rintro ⟨htaken, -⟩
      rw [hreserved] at htaken
      cases htaken

end Local

end Name

/-- **When the local of an entity clashes.** It is neither a keyword nor a local that the tests
declare. It is the entity's lambda parameter exactly when it took the suffix `Entity` for the sake of
such a local and the parameter ends so too. -/
theorem local_name_clashes_iff {d : Draft} {e : Entity} (build : d.build = .ok e) :
    Name.isKeyword e.localName = false ∧ Name.isReserved e.localName = false ∧
      (e.localName = e.lambda ↔
        Name.isReserved e.variableName = true ∧ e.lambda = e.variableName ++ "Entity") := by
  obtain ⟨hkeyword, hreserved⟩ := Name.localVariable_free e.name e.lambda
  have hlambda : Name.isIdentifier e.lambda = true := (Draft.isNamed_of_build build).lambda
  exact ⟨hkeyword, hreserved, Name.localVariable_eq_lambda_iff e.name hlambda⟩

/-- An order whose lambda parameter is called `order`. -/
theorem order_local_apart :
    ∃ e, (Draft.child "order" (some " order ") []).build = .ok e ∧ e.lambda = "order" ∧
      e.localName = "orderEntity" ∧ Name.isKeyword e.localName = false ∧
      Name.isReserved e.localName = false ∧ e.localName ≠ e.lambda := by
  obtain ⟨e, build, hlambda, hlocal, hfree⟩ : ∃ e,
      (Draft.child "order" (some " order ") []).build = .ok e ∧ e.lambda = "order" ∧
        e.localName = "orderEntity" ∧ Name.isReserved e.variableName = false :=
    exists_of_map_decide (by decide +kernel)
  obtain ⟨hkeyword, hreserved, hclash⟩ := local_name_clashes_iff build
  refine ⟨e, build, hlambda, hlocal, hkeyword, hreserved, ?_⟩
  intro hsame
  have hvariable := (hclash.mp hsame).1
  rw [hfree] at hvariable
  cases hvariable

/-- A command whose lambda parameter is called `commandEntity` does clash: `command` is taken. -/
theorem command_local_clashes :
    ∃ e, (Draft.child "Command" (some "commandEntity") []).build = .ok e ∧
      e.localName = e.lambda :=
  exists_of_map_decide (by decide +kernel)

end Scaffold
