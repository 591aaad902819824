/-
  Scaffold/Proofs/Refusal.lean
  ============================
  **Computations that may refuse.**

  A chain of checks answers exactly when every check on the way answers, and refuses with the first
  refusal. Proofs about `Draft.build` and the renderers take them apart with these equivalences and
  unfold nothing else of the error monad.
-/
import Mathlib.Data.List.Forall2

namespace Scaffold

variable {ε α β : Type} {check : Except ε α}

theorem bind_eq_ok_iff {next : α → Except ε β} {answer : β} :
    check >>= next = .ok answer ↔ ∃ a, check = .ok a ∧ next a = .ok answer := by
  cases check with
  | error cause => simp [bind, Except.bind]
  | ok a => simp [bind, Except.bind]

theorem bind_eq_error_iff {next : α → Except ε β} {cause : ε} :
    check >>= next = .error cause ↔
      check = .error cause ∨ ∃ a, check = .ok a ∧ next a = .error cause := by
  cases check with
  | error first => simp [bind, Except.bind]
  | ok a => simp [bind, Except.bind]

theorem map_eq_ok_iff {f : α → β} {answer : β} :
    check.map f = .ok answer ↔ ∃ a, check = .ok a ∧ f a = answer := by
  cases check with
  | error cause => simp [Except.map]
  | ok a => simp [Except.map]

theorem exists_of_map_decide {P : α → Prop} [DecidablePred P]
    (h : check.map (fun a => decide (P a)) = .ok true) : ∃ a, check = .ok a ∧ P a := by
  obtain ⟨a, ha, hP⟩ := map_eq_ok_iff.mp h
  exact ⟨a, ha, of_decide_eq_true hP⟩

theorem isSome_toOption_iff {answer : Except ε α} :
    answer.toOption.isSome = true ↔ ∃ a, answer = .ok a := by
  cases answer with
  | error cause => simp [Except.toOption]
  | ok a => simp [Except.toOption]

/-! ### The refusal alone -/

/-- The cause that a check refuses with; none when it answers. -/
def refusal? : Except ε α → Option ε
  | .ok _ => none
  | .error cause => some cause

theorem refusal?_eq_some_iff {cause : ε} : refusal? check = some cause ↔ check = .error cause := by
  cases check <;> simp [refusal?]

theorem refusal?_eq_none_iff : refusal? check = none ↔ ∃ a, check = .ok a := by
  cases check <;> simp [refusal?]

/-- What comes second refuses only after what comes first has answered. -/
theorem refusal?_bind {next : α → Except ε β} {later : Option ε}
    (hnext : ∀ a, refusal? (next a) = later) :
    refusal? (check >>= next) = (refusal? check).or later := by
  cases check with
  | error cause => rfl
  | ok a => exact hnext a

theorem refusal?_map (f : α → β) : refusal? (check.map f) = refusal? check := by
  cases check <;> rfl

/-! ### Lists of checks -/

section Lists

variable {f : α → Except ε β} {items : List α} {answers : List β}

theorem mapM_eq_ok_iff : items.mapM f = .ok answers ↔
    List.Forall₂ (fun item answer => f item = .ok answer) items answers := by
  constructor
  · intro h
    induction items generalizing answers with
    | nil =>
      cases h
      exact .nil
    | cons item items ih =>
      rw [List.mapM_cons] at h
      obtain ⟨answer, hanswer, h⟩ := bind_eq_ok_iff.mp h
      obtain ⟨rest, hrest, h⟩ := bind_eq_ok_iff.mp h
      cases h
      exact .cons hanswer (ih hrest)
  · intro h
    induction h with
    | nil => rfl
    | cons hanswer _ ih =>
      rw [List.mapM_cons, hanswer, ih]
      rfl

/-- A list of checks refuses with the first refusal. -/
theorem mapM_eq_error_iff {cause : ε} :
    items.mapM f = .error cause ↔ ∃ front item back, items = front ++ item :: back ∧
      (∀ other ∈ front, ∃ answer, f other = .ok answer) ∧ f item = .error cause := by
  constructor
  · intro h
    induction items with
    | nil => cases h
    | cons item items ih =>
      rw [List.mapM_cons] at h
      rcases bind_eq_error_iff.mp h with hfirst | ⟨answer, hanswer, h⟩
      · exact ⟨[], item, items, rfl, List.forall_mem_nil _, hfirst⟩
      rcases bind_eq_error_iff.mp h with hrest | ⟨_, _, h⟩
      · obtain ⟨front, first, back, rfl, hfront, hrefusal⟩ := ih hrest
        exact ⟨item :: front, first, back, rfl,
          List.forall_mem_cons.mpr ⟨⟨answer, hanswer⟩, hfront⟩, hrefusal⟩
      · cases h
  · rintro ⟨front, item, back, rfl, hfront, hrefusal⟩
    induction front with
    | nil =>
      rw [List.nil_append, List.mapM_cons, hrefusal]
      rfl
    | cons first front ih =>
      obtain ⟨⟨answer, hanswer⟩, hrest⟩ := List.forall_mem_cons.mp hfront
      rw [List.cons_append, List.mapM_cons, hanswer, bind_eq_error_iff]
      exact .inr ⟨answer, rfl, bind_eq_error_iff.mpr (.inl (ih hrest))⟩

theorem exists_ok_of_mapM (h : items.mapM f = .ok answers) :
    ∀ item ∈ items, ∃ answer, f item = .ok answer := by
  have hanswers := mapM_eq_ok_iff.mp h
  clear h
  induction hanswers with
  | nil => exact List.forall_mem_nil _
  | cons hanswer _ ih => exact List.forall_mem_cons.mpr ⟨⟨_, hanswer⟩, ih⟩

theorem refusal?_mapM : refusal? (items.mapM f) = items.findSome? fun item => refusal? (f item) := by
  induction items with
  | nil => rfl
  | cons item items ih =>
    have hrest : ∀ answer, refusal? (items.mapM f >>= fun answers => pure (answer :: answers)) =
        items.findSome? fun item => refusal? (f item) := by
      intro answer
      have hlast : ∀ answers, refusal? (pure (answer :: answers) : Except ε (List β)) = none :=
        fun _ => rfl
      rw [refusal?_bind hlast, ih, Option.or_none]
    rw [List.mapM_cons, refusal?_bind hrest, List.findSome?_cons]
    cases refusal? (f item) <;> rfl

/-- A list of checks answers with the answers of its members. -/
theorem mem_of_mapM_eq_ok (h : items.mapM f = .ok answers) {answer : β} :
    answer ∈ answers ↔ ∃ item ∈ items, f item = .ok answer := by
  have hanswers := mapM_eq_ok_iff.mp h
  clear h
  induction hanswers with
  | nil => simp
  | cons hanswer _ ih =>
    simp only [List.mem_cons, ih, exists_eq_or_imp, hanswer, Except.ok.injEq,
      eq_comm (a := answer)]

end Lists

end Scaffold
