/-
  Scaffold/Proofs/Render/Seeds.lean
  =================================
  **Which namespaces the seeded parents bring.**
-/
import Scaffold.Proofs.Refusal
import Scaffold.Render.Seeds

namespace Scaffold.Seeds

theorem mem_distinct {found names : List String} {name : String} :
    name ∈ distinct found names ↔ name ∈ found ∨ name ∈ names := by
  induction names generalizing found with
  | nil => simp [distinct]
  | cons first names ih =>
    unfold distinct
    split
    · rename_i hfound
      rw [ih, List.mem_cons]
      have hmem : first ∈ found := List.contains_iff_mem.mp hfound
      constructor
      · rintro (hold | hnew)
        · exact .inl hold
        · exact .inr (.inr hnew)
      · rintro (hold | rfl | hnew)
        · exact .inl hold
        · exact .inl hmem
        · exact .inr hnew
    · rw [ih, List.mem_append, List.mem_singleton, List.mem_cons, or_assoc]

/-- The parents' namespaces, without the entity's own. -/
theorem mem_imports_iff {l : Layout} {e : Entity} {names : List String}
    (h : imports l e = .ok names) {name : String} :
    name ∈ names ↔ ∃ r ∈ e.relationships, r.parent ≠ e.name ∧
      l.namespaceOf e (.fakes r.parent) = .ok name := by
  unfold imports at h
  obtain ⟨namespaces, hmap, h⟩ := bind_eq_ok_iff.mp h
  cases h
  rw [mem_distinct, mem_of_mapM_eq_ok hmap, or_iff_right List.not_mem_nil]
  constructor
  · rintro ⟨parent, hparent, hname⟩
    obtain ⟨hmem, hother⟩ := List.mem_filter.mp hparent
    obtain ⟨r, hr, rfl⟩ := List.mem_map.mp hmem
    exact ⟨r, hr, bne_iff_ne.mp hother, hname⟩
  · rintro ⟨r, hr, hother, hname⟩
    exact ⟨r.parent, List.mem_filter.mpr ⟨List.mem_map_of_mem hr, bne_iff_ne.mpr hother⟩, hname⟩

end Scaffold.Seeds
