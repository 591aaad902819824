/-
  Scaffold/Proofs/Selection.lean
  ==============================
  **A selection of kinds is a set, taken in generation order.**

  The kinds of a selection are sorted, and then a kind is dropped when it repeats the one before it.
  The argument has two halves:

    * equal kinds are neighbours once they are sorted, so that the repetitions of neighbours are all
      repetitions there are (`eraseReps_eq_dedup`);
    * kinds are sorted in the order of their declaration, and the list of all kinds is written in
      the same order (`ArtifactKind.isLE_compare_iff`).

  So what is requested is what the selection keeps of the list of all kinds
  (`ArtifactKind.requested_eq_filter`). In there a selection occurs by its members only: neither
  their order nor their repetitions can reach a run.
-/
import Mathlib.Data.List.Destutter
import Mathlib.Data.List.Sort
import Scaffold.Disk
import Scaffold.Program

namespace Scaffold

/-! ### Repeated neighbours -/

section Neighbours

variable {α : Type} [DecidableEq α]

/-- `a` is the last member that was kept, `kept` holds those before it, the last one first. -/
theorem eraseReps_loop_eq (a : α) (rest kept : List α) :
    List.eraseRepsBy.loop (· == ·) a rest kept = kept.reverse ++ rest.destutter' (· ≠ ·) a := by
  induction rest generalizing a kept with
  | nil => rw [List.eraseRepsBy.loop, List.destutter'_nil, List.reverse_cons]
  | cons b rest ih =>
    rw [List.eraseRepsBy.loop]
    by_cases hab : a = b
    · have hsame : (a == b) = true := by simpa using hab
      rw [List.destutter'_cons_neg rest (fun hne => hne hab), hsame]
      exact ih a kept
    · have hother : (a == b) = false := by simpa using hab
      rw [List.destutter'_cons_pos rest hab, hother]
      dsimp only
      rw [ih, List.reverse_cons, List.append_assoc, List.singleton_append]

theorem eraseReps_eq_destutter (l : List α) : l.eraseReps = l.destutter (· ≠ ·) := by
  cases l with
  | nil => rfl
  | cons a rest => exact eraseReps_loop_eq a rest []

/-- In a sorted list the repetitions of neighbours are all repetitions. -/
theorem eraseReps_eq_dedup {r : α → α → Prop} [Std.Antisymm r] {l : List α} (h : l.Pairwise r) :
    l.eraseReps = l.dedup := by
  rw [eraseReps_eq_destutter, h.destutter_eq_dedup]

end Neighbours

/-! ### Generation order -/

namespace ArtifactKind

theorem mem_all (kind : ArtifactKind) : kind ∈ all := by
  cases kind <;> decide

theorem nodup_all : all.Nodup := by decide

/-- The first kind is generated before the second one, if they are not the same. -/
def InOrder (a b : ArtifactKind) : Prop := all.idxOf a ≤ all.idxOf b

/-- The kinds are declared in the order of the list of all kinds. -/
theorem isLE_compare_iff (a b : ArtifactKind) : (compare a b).isLE = true ↔ InOrder a b := by
  unfold InOrder
  cases a <;> cases b <;> decide

instance : Std.Antisymm InOrder where
  antisymm a _ hab hba := (List.idxOf_inj (mem_all a)).mp (Nat.le_antisymm hab hba)

theorem pairwise_all : all.Pairwise InOrder := by
  unfold InOrder
  decide

theorem pairwise_sorted (selection : List ArtifactKind) :
    (selection.mergeSort fun a b => (compare a b).isLE).Pairwise InOrder := by
  have htrans : ∀ a b c : ArtifactKind, (compare a b).isLE = true → (compare b c).isLE = true →
      (compare a c).isLE = true := by
    intro a b c hab hbc
    rw [isLE_compare_iff] at hab hbc ⊢
    exact Nat.le_trans hab hbc
  have htotal : ∀ a b : ArtifactKind, ((compare a b).isLE || (compare b a).isLE) = true := by
    intro a b
    rw [Bool.or_eq_true, isLE_compare_iff, isLE_compare_iff]
    exact Nat.le_total _ _
  exact (List.pairwise_mergeSort htrans htotal selection).imp fun {a b} => (isLE_compare_iff a b).mp

/-! ### What is requested -/

/-- A selection takes its members out of the list of all kinds; an empty one takes them all. -/
theorem requested_eq_filter (selection : List ArtifactKind) :
    requested selection = all.filter fun kind => selection = [] ∨ kind ∈ selection := by
  by_cases hempty : selection = []
  · subst hempty
    simp [requested]
  · have hsorted := pairwise_sorted selection
    rw [requested, if_neg (by simpa using hempty), eraseReps_eq_dedup hsorted]
    apply List.Perm.eq_of_pairwise' (r := InOrder)
    · exact hsorted.sublist (List.dedup_sublist _)
    · exact pairwise_all.filter _
    · rw [List.perm_ext_iff_of_nodup (List.nodup_dedup _) (nodup_all.filter _)]
      intro kind
      simp [mem_all, hempty]

theorem requested_congr {selection other : List ArtifactKind}
    (h : ∀ kind, kind ∈ selection ↔ kind ∈ other) : requested selection = requested other := by
  have hempty : selection = [] ↔ other = [] := by
    simp only [List.eq_nil_iff_forall_not_mem, h]
  simp only [requested_eq_filter, hempty, h]

end ArtifactKind

/-- **A selection of kinds is a set, taken in generation order.** Nothing selected stands for all
kinds, each of which is listed once. Otherwise the selected kinds are requested and no others, each
once and in the order of the list of all kinds. Selections with the same members request the same,
and the whole run is the same on every host. -/
theorem selection_is_ordered_set (selection : List ArtifactKind) :
    ((∀ kind, ArtifactKind.all.count kind = 1) ∧ ArtifactKind.requested [] = ArtifactKind.all) ∧
    (selection ≠ [] → ∀ kind, kind ∈ ArtifactKind.requested selection ↔ kind ∈ selection) ∧
    ((ArtifactKind.requested selection).Nodup ∧
      (ArtifactKind.requested selection).Sublist ArtifactKind.all) ∧
    ∀ other : List ArtifactKind, (∀ kind, kind ∈ selection ↔ kind ∈ other) →
      ArtifactKind.requested selection = ArtifactKind.requested other ∧
      ∀ {m : Type → Type} [Monad m] (host : Host m) (style : Program.Style) (settings : Settings)
        (options : CommandLine.GenerateOptions),
        Program.generate host style settings { options with only := selection } =
          Program.generate host style settings { options with only := other } := by
  refine ⟨⟨?_, ?_⟩, ?_, ⟨?_, ?_⟩, ?_⟩
  · intro kind
    exact List.count_eq_one_of_mem ArtifactKind.nodup_all (ArtifactKind.mem_all kind)
  · rfl
  · intro hne kind
    rw [ArtifactKind.requested_eq_filter]
    simp [ArtifactKind.mem_all, hne]
  · rw [ArtifactKind.requested_eq_filter]
    exact ArtifactKind.nodup_all.filter _
  · rw [ArtifactKind.requested_eq_filter]
    exact List.filter_sublist
  · intro other hmembers
    have hsame : ArtifactKind.requested selection = ArtifactKind.requested other :=
      ArtifactKind.requested_congr hmembers
    refine ⟨hsame, ?_⟩
    intro m _ host style settings options
    unfold Program.generate
    simp only [hsame]
    -- besides the kinds, a run reads its layout off the options, whatever is selected
    rfl

/-- Three kinds in no order, two of them twice and not side by side, and the same kinds once. -/
theorem three_kinds_selected :
    let selection : List ArtifactKind :=
      [.updateDtoFaker, .deleteFeature, .updateDtoFaker, .entityFaker, .deleteFeature]
    let other : List ArtifactKind := [.entityFaker, .updateDtoFaker, .deleteFeature]
    let run := fun only =>
      Program.generate (Disk.host none "run") {} {} { manifest := "m.toml", only }
    selection ≠ [] ∧ (∀ kind, kind ∈ selection ↔ kind ∈ other) ∧
      ArtifactKind.requested selection = [.deleteFeature, .entityFaker, .updateDtoFaker] ∧
      (∀ kind, kind ∈ ArtifactKind.requested selection ↔ kind ∈ selection) ∧
      ArtifactKind.requested selection = ArtifactKind.requested other ∧
      run selection = run other := by
  intro selection other run
  have hne : selection ≠ [] := List.cons_ne_nil _ _
  have hmembers : ∀ kind, kind ∈ selection ↔ kind ∈ other := by
    intro kind
    cases kind <;> decide
  obtain ⟨-, hkinds, -, hsame⟩ := selection_is_ordered_set selection
  obtain ⟨hrequested, hrun⟩ := hsame other hmembers
  refine ⟨hne, hmembers, ?_, hkinds hne, hrequested, hrun _ _ _ { manifest := "m.toml" }⟩
  rw [ArtifactKind.requested_eq_filter]
  decide

end Scaffold
