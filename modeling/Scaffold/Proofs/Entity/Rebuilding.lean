/-
  Scaffold/Proofs/Entity/Rebuilding.lean
  ======================================
  **Building is a fixed point.**

  What `Draft.build` accepts it puts into a normal form: names in PascalCase, a plural and a lambda
  parameter that are spelled out, whether they were given or derived. `Entity.draft` is the draft
  that says exactly this again. Nothing of it is left to normalise, so it is admissible when the
  draft that the entity came from was, and what is built from it is the entity itself.
-/
import Scaffold.Proofs.Entity.Names
import Scaffold.Proofs.Name.Pascal

namespace Scaffold

/-- The draft that gives the names and properties of an entity. -/
def Entity.draft (e : Entity) : Draft :=
  { name := e.name, plural := some e.plural, lambda := some e.lambda, properties := e.properties }

/-! ### Nothing is left to normalise -/

theorem Property.normalised_normalised {p : Property} (h : p.IsNamed) :
    p.normalised.normalised = p.normalised := by
  obtain ⟨hname, hparent⟩ := h
  rcases p with ⟨name, type, isKey, parent⟩
  have hkept : Name.pascal (Name.pascal name) = Name.pascal name :=
    (Name.isPascal_pascal hname).pascal_eq
  cases parent with
  | none => simp only [normalised, hkept, Option.map_none]
  | some parent =>
    have hparentKept : Name.pascal (Name.pascal parent) = Name.pascal parent :=
      (Name.isPascal_pascal (hparent parent rfl)).pascal_eq
    simp only [normalised, hkept, Option.map_some, hparentKept]

theorem Property.isNamed_normalised {p : Property} (h : p.IsNamed) : p.normalised.IsNamed := by
  obtain ⟨hname, hparent⟩ := h
  constructor
  · rw [name_normalised, (Name.isPascal_pascal hname).pascal_eq]
    exact hname
  · intro parent hsome
    obtain ⟨raw, hraw, rfl⟩ := Option.map_eq_some_iff.mp hsome
    rw [(Name.isPascal_pascal (hparent raw hraw)).pascal_eq]
    exact hparent raw hraw

namespace Draft

variable {d : Draft} {e : Entity}

/-- The plural of a built entity is in PascalCase, whether it was given or derived. -/
theorem Admissible.isPascal_plural (h : d.Admissible) : Name.IsPascal d.entityPlural := by
  have hplural := h.plural
  unfold entityPlural at hplural ⊢
  cases hchosen : d.chosenPlural with
  | none =>
    rw [Option.elim_none]
    exact (Name.isPascal_pascal h.name).plural
  | some given =>
    rw [hchosen, Option.elim_some] at hplural
    rw [Option.elim_some]
    exact Name.isPascal_pascal hplural

end Draft

/-- An entity with nothing left to normalise. -/
structure Entity.IsNormal (e : Entity) : Prop where
  name : Name.IsPascal e.name
  plural : Name.IsPascal e.plural
  lambda : Name.isIdentifier e.lambda = true
  properties : ∀ p ∈ e.properties, p.IsNamed
  normalised : e.properties.map Property.normalised = e.properties

theorem Draft.isNormal_of_build {d : Draft} {e : Entity} (build : d.build = .ok e) :
    e.IsNormal := by
  have hadmissible : d.Admissible := admissible_of_build build
  have hdescribes : e.Describes d := describes_of_build build
  constructor
  · rw [hdescribes.name]
    exact Name.isPascal_pascal hadmissible.name
  · rw [hdescribes.plural]
    exact hadmissible.isPascal_plural
  · rw [hdescribes.lambda]
    exact hadmissible.lambda
  · rw [hdescribes.properties]
    intro p hp
    obtain ⟨given, hgiven, rfl⟩ := List.mem_map.mp hp
    exact Property.isNamed_normalised (hadmissible.properties given hgiven)
  · rw [hdescribes.properties, List.map_map]
    exact List.map_congr_left fun p hp =>
      Property.normalised_normalised (hadmissible.properties p hp)

/-! ### Building again -/

namespace Entity.IsNormal

variable {e : Entity} (h : e.IsNormal)

include h

theorem pascal_name : Name.pascal e.draft.name = e.name := h.name.pascal_eq

theorem entityPlural_draft : e.draft.entityPlural = e.plural := by
  have hchosen : e.draft.chosenPlural = some e.plural := by
    simp [Draft.chosenPlural, draft, Name.isBlank_of_isIdentifier h.plural.identifier]
  rw [Draft.entityPlural, hchosen, Option.elim_some, h.plural.pascal_eq]

theorem entityLambda_draft : e.draft.entityLambda = e.lambda := by
  have hchosen : e.draft.chosenLambda = some e.lambda := by
    simp [Draft.chosenLambda, draft, Name.isBlank_of_isIdentifier h.lambda]
  rw [Draft.entityLambda, hchosen, Option.elim_some, Name.trim_of_isIdentifier h.lambda]

theorem map_normalised_draft : e.draft.properties.map Property.normalised = e.properties :=
  h.normalised

theorem map_pascal_name :
    e.draft.properties.map (fun p => Name.pascal p.name) = e.properties.map (·.name) := by
  have hnames := congrArg (List.map (·.name)) h.map_normalised_draft
  simpa only [List.map_map, Function.comp_def, Property.name_normalised] using hnames

theorem entityWith_draft (hrelationships :
    e.relationships = Draft.relationships e.name e.properties) :
    e.draft.entityWith e.key = e := by
  rw [Draft.entityWith, h.pascal_name, h.entityPlural_draft, h.entityLambda_draft,
    h.map_normalised_draft, ← hrelationships]

end Entity.IsNormal

/-- **Building is a fixed point.** The draft that gives the name, the plural, the lambda parameter and
the properties of a built entity is built again, to the same entity. -/
theorem build_draft {d : Draft} {e : Entity} (build : d.build = .ok e) :
    e.draft.build = .ok e := by
  have hadmissible : d.Admissible := Draft.admissible_of_build build
  have hdescribes : e.Describes d := Draft.describes_of_build build
  have hnormal : e.IsNormal := Draft.isNormal_of_build build
  have hkey : (e.draft.properties.map Property.normalised).filter (·.isKey) = [e.key] := by
    rw [hnormal.map_normalised_draft]
    exact hdescribes.key
  have hagain : e.draft.Admissible := by
    constructor
    · exact Name.isBlank_of_isIdentifier hnormal.name.identifier
    · rw [hnormal.pascal_name]
      exact hnormal.name.identifier
    · rw [hnormal.entityPlural_draft]
      exact hnormal.plural.identifier
    · rw [hnormal.entityLambda_draft]
      exact hnormal.lambda
    · rw [hnormal.entityLambda_draft, hdescribes.lambda]
      exact hadmissible.lambda_free
    · exact hnormal.properties
    · rw [hnormal.map_pascal_name, hdescribes.properties]
      simpa only [List.map_map, Function.comp_def, Property.name_normalised] using
        hadmissible.distinct
    · exact (Draft.countP_isKey_eq_one_iff _).mpr ⟨e.key, hkey⟩
  have hentity : e.draft.entityWith e.key = e :=
    hnormal.entityWith_draft (Draft.relationships_of_build build)
  exact Draft.build_eq_ok_iff.mpr ⟨hagain, e.key, hkey, hentity⟩

/-- Words with blanks around them, letters outside ASCII with a capital in it, a plural that is
derived: what an order is built from is not what it says about itself. -/
theorem order_built_again :
    let d : Draft :=
      { name := " ſales_person ", lambda := some " sp ",
        properties := [{ name := "ıd", type := .guid, isKey := true },
          { name := "chief id", type := .guid, parent := some "sales-person" }] }
    ∃ e, d.build = .ok e ∧ e.name = "SalesPerson" ∧ e.plural = "SalesPeople" ∧
      e.properties.map (·.name) = ["Id", "ChiefId"] ∧ e.draft ≠ d ∧ e.draft.build = .ok e := by
  intro d
  obtain ⟨e, build, hname, hplural, hproperties, hother⟩ : ∃ e, d.build = .ok e ∧
      e.name = "SalesPerson" ∧ e.plural = "SalesPeople" ∧
      e.properties.map (·.name) = ["Id", "ChiefId"] ∧ e.draft ≠ d :=
    exists_of_map_decide (by decide +kernel)
  exact ⟨e, build, hname, hplural, hproperties, hother, build_draft build⟩

end Scaffold
