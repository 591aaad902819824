/-
  Scaffold/Proofs/Source/Depth.lean
  =================================
  **How deep in braces a text stands.**

  `Source.depth` counts the braces that are open behind some characters. Reading nested brackets
  awaits one closing brace for each that is open (`depth_of_foldlM`), so no start of a nested text
  closes more braces than it opens. A file whose one class has nested members is therefore inside of
  its braces from the first to the last of them and nowhere else (`depth_eq_zero_iff`).
-/
import Scaffold.Proofs.Source.Brackets

namespace Scaffold

namespace Source

/-- How many more braces the characters open than they close. -/
def depth (cs : List Char) : Int := cs.count '\x7b' - cs.count '\x7d'

theorem depth_append (cs ds : List Char) : depth (cs ++ ds) = depth cs + depth ds := by
  simp only [depth, List.count_append]
  omega

theorem depth_cons (c : Char) (cs : List Char) : depth (c :: cs) = depth [c] + depth cs :=
  depth_append [c] cs

theorem depth_of_plain {cs : List Char} (h : ∀ c ∈ cs, c ≠ '\x7b' ∧ c ≠ '\x7d') : depth cs = 0 := by
  have hopen : cs.count '\x7b' = 0 := List.count_eq_zero.mpr fun hmem => (h _ hmem).1 rfl
  have hclose : cs.count '\x7d' = 0 := List.count_eq_zero.mpr fun hmem => (h _ hmem).2 rfl
  rw [depth, hopen, hclose]
  rfl

/-- One character changes the depth as it changes the closing braces that are awaited. -/
theorem depth_of_step {awaited after : List Char} {c : Char}
    (h : Bracket.step awaited c = some after) :
    depth [c] = after.count '\x7d' - awaited.count '\x7d' := by
  rcases Bracket.step_cases h with ⟨close, hopen, rfl⟩ | ⟨hclose, rfl⟩ | ⟨hplain, rfl⟩
  · unfold Bracket.closing? at hopen
    split at hopen <;> cases hopen <;>
      simp +decide only [depth, List.count_cons, List.count_nil, if_true, if_false] <;> omega
  · simp only [Bracket.isClosing, Bool.or_eq_true, beq_iff_eq] at hclose
    rcases hclose with (rfl | rfl) | rfl <;>
      simp +decide only [depth, List.count_cons, List.count_nil, if_true, if_false] <;> omega
  · rw [Int.sub_self]
    refine depth_of_plain ?_
    intro x hx
    rw [List.mem_singleton.mp hx]
    exact Bracket.not_brace_of_not_isBracket hplain

theorem depth_of_foldlM {awaited after cs : List Char}
    (h : cs.foldlM Bracket.step awaited = some after) :
    depth cs = after.count '\x7d' - awaited.count '\x7d' := by
  induction cs generalizing awaited with
  | nil =>
    rw [List.foldlM_nil, Option.pure_def, Option.some.injEq] at h
    rw [h, Int.sub_self]
    rfl
  | cons c cs ih =>
    rw [List.foldlM_cons] at h
    obtain ⟨next, hstep, hrest⟩ := Option.bind_eq_some_iff.mp h
    rw [depth_cons, depth_of_step hstep, ih hrest]
    omega

/-- Nothing that is nested starts by closing more braces than it opens. -/
theorem depth_nonneg_of_nested {before after : List Char} (h : Bracket.Nested (before ++ after)) :
    0 ≤ depth before := by
  unfold Bracket.Nested at h
  rw [List.foldlM_append] at h
  obtain ⟨awaited, hbefore, -⟩ := Option.bind_eq_some_iff.mp h
  rw [depth_of_foldlM hbefore, List.count_nil]
  omega

theorem depth_of_nested {cs : List Char} (h : Bracket.Nested cs) : depth cs = 0 :=
  depth_of_foldlM h

/-- Between braces around something nested, the depth is zero only behind the last of them. -/
theorem depth_inside_eq_zero_iff {members inner after : List Char} (h : Bracket.Nested members)
    (hsplit : members ++ ['\x7d', '\n'] = inner ++ after) :
    1 + depth inner = 0 ↔ after <:+ ['\n'] := by
  have hlong : ∀ rest : List Char, ¬rest ++ ['\x7d', '\n'] <:+ ['\n'] := by
    intro rest hsuffix
    have hlength := hsuffix.length_le
    simp only [List.length_append, List.length_cons, List.length_nil] at hlength
    omega
  rcases List.append_eq_append_iff.mp hsplit with ⟨tail, rfl, htail⟩ | ⟨rest, rfl, rfl⟩
  · rw [depth_append, depth_of_nested h]
    -- the start ends in front of the last brace, behind it, or with the text
    match tail, htail with
    | [], htail =>
      subst htail
      exact iff_of_false (by decide) (hlong [])
    | [_], rfl => exact iff_of_true (by decide) (List.suffix_refl _)
    | [_, _], rfl => exact iff_of_true (by decide) (List.nil_suffix)
  · have hinner : 0 ≤ depth inner := depth_nonneg_of_nested h
    exact iff_of_false (by omega) (hlong rest)

/-- **A file is in braces from its first brace to its last.** The depth behind a start of the text is
zero exactly when the start ends in front of the first brace or behind the last one. -/
theorem depth_eq_zero_iff {front members : String} (hfront : Text.brackets front = [])
    (hmembers : Bracket.Nested (Text.brackets members)) {before after : List Char}
    (hsplit : (front ++ "\x7b" ++ members ++ "\x7d\n").toList = before ++ after) :
    depth before = 0 ↔ before <+: front.toList ∨ after <:+ ['\n'] := by
  have hnested : Bracket.Nested members.toList := by
    unfold Bracket.Nested at hmembers ⊢
    rwa [Text.foldlM_brackets] at hmembers
  have hplain : ∀ c ∈ front.toList, c ≠ '\x7b' ∧ c ≠ '\x7d' := fun c hc =>
    Bracket.not_brace_of_not_isBracket (Text.brackets_eq_nil_iff.mp hfront c hc)
  have hone : depth ['\x7b'] = 1 := by decide
  have hopen : "\x7b".toList = ['\x7b'] := rfl
  have hclose : "\x7d\n".toList = ['\x7d', '\n'] := rfl
  simp only [String.toList_append, hopen, hclose, List.append_assoc, List.singleton_append] at hsplit
  rcases List.append_eq_append_iff.mp hsplit with ⟨inner, rfl, hinner⟩ | ⟨rest, hrest, -⟩
  · -- the start reaches the first brace
    rw [depth_append, depth_of_plain hplain, Int.zero_add]
    cases inner with
    | nil =>
      rw [List.append_nil]
      exact iff_of_true rfl (.inl (List.prefix_refl _))
    | cons c inner =>
      obtain ⟨rfl, hrest⟩ := List.cons.inj hinner
      have hlong : ¬front.toList ++ '\x7b' :: inner <+: front.toList := by
        intro hpre
        have hlength := hpre.length_le
        rw [List.length_append, List.length_cons] at hlength
        omega
      rw [depth_cons, hone, or_iff_right hlong]
      exact depth_inside_eq_zero_iff hnested hrest
  · -- the start ends in front of it
    have hpre : before <+: front.toList := ⟨rest, hrest.symm⟩
    exact iff_of_true (depth_of_plain fun c hc => hplain c (hpre.subset hc)) (.inl hpre)

end Source

end Scaffold
