/-
  Scaffold/Proofs/Manifest/Entries.lean
  =====================================
  **No entry of a manifest is lost.**

  An entry is either taken over as it stands, with the types of its properties read
  (`EntityEntry.Describes`), or rejected for the first type that is unknown
  (`EntityEntry.IsRejectedAs`). The definitions and the rejections of a manifest are its entries,
  parted between the two lists and in order (`Parted`), and a batch gives each of the definitions its
  own section. So every entry has one section or one rejection.
-/
import Scaffold.Manifest
import Scaffold.Proofs.Batch.Accounting
import Scaffold.Proofs.Refusal

namespace Scaffold

/-! ### Parted lists -/

/-- The items in order, each of them standing for the next on the left or for the next on the
right. -/
inductive Parted {α β γ : Type} (left : α → β → Prop) (right : α → γ → Prop) :
    List α → List β → List γ → Prop
  | nil : Parted left right [] [] []
  | left {a : α} {b : β} {as : List α} {bs : List β} {cs : List γ} (here : left a b)
      (rest : Parted left right as bs cs) : Parted left right (a :: as) (b :: bs) cs
  | right {a : α} {c : γ} {as : List α} {bs : List β} {cs : List γ} (here : right a c)
      (rest : Parted left right as bs cs) : Parted left right (a :: as) bs (c :: cs)

namespace Parted

variable {α β γ δ : Type} {left : α → β → Prop} {right : α → γ → Prop} {as : List α} {bs : List β}
  {cs : List γ}

theorem length_add (h : Parted left right as bs cs) : bs.length + cs.length = as.length := by
  induction h with
  | nil => rfl
  | left _ _ ih =>
    simp only [List.length_cons]
    omega
  | right _ _ ih =>
    simp only [List.length_cons]
    omega

/-- What stands on the left may be followed further, one by one. -/
theorem comp_left {next : β → δ → Prop} {ds : List δ} (h : Parted left right as bs cs)
    (hnext : List.Forall₂ next bs ds) :
    Parted (fun a d => ∃ b, left a b ∧ next b d) right as ds cs := by
  induction h generalizing ds with
  | nil =>
    cases hnext
    exact .nil
  | left here _ ih =>
    cases hnext with
    | cons hhere hrest => exact .left ⟨_, here, hhere⟩ (ih hrest)
  | right here _ ih => exact .right here (ih hnext)

end Parted

/-! ### Entries -/

/-- The property is the entry's, with the type that the entry names. -/
structure PropertyEntry.Describes (entry : PropertyEntry) (p : Property) : Prop where
  name : p.name = entry.name
  type : PropertyType.parse entry.type = .ok p.type
  isKey : p.isKey = entry.isKey
  parent : p.parent = entry.parent

theorem PropertyEntry.property_eq_ok_iff {entry : PropertyEntry} {p : Property} :
    entry.property = .ok p ↔ entry.Describes p := by
  unfold property
  rw [bind_eq_ok_iff]
  constructor
  · rintro ⟨type, htype, ⟨⟩⟩
    exact ⟨rfl, htype, rfl, rfl⟩
  · rintro ⟨hname, htype, hkey, hparent⟩
    refine ⟨p.type, htype, ?_⟩
    rw [← hname, ← hkey, ← hparent]
    rfl

theorem PropertyEntry.property_eq_error_iff {entry : PropertyEntry} {cause : DomainError} :
    entry.property = .error cause ↔ PropertyType.parse entry.type = .error cause := by
  unfold property
  rw [bind_eq_error_iff]
  exact or_iff_left fun ⟨_, _, h⟩ => nomatch h

/-- A property can be read when its type is known. -/
theorem PropertyEntry.exists_property_iff {entry : PropertyEntry} :
    (∃ p, entry.property = .ok p) ↔ ∃ type, PropertyType.parse entry.type = .ok type := by
  simp only [property_eq_ok_iff]
  constructor
  · rintro ⟨p, h⟩
    exact ⟨p.type, h.type⟩
  · rintro ⟨type, h⟩
    exact ⟨{ name := entry.name, type, isKey := entry.isKey, parent := entry.parent }, rfl, h, rfl,
      rfl⟩

namespace EntityEntry

/-- The definition is the entry's: one property for each of the entry's, in order, and all else as
it is given. -/
structure Describes (entry : EntityEntry) (d : Definition) : Prop where
  name : d.draft.name = entry.name
  plural : d.draft.plural = entry.plural
  lambda : d.draft.lambda = entry.lambda
  properties : List.Forall₂ PropertyEntry.Describes entry.properties d.draft.properties
  flags : d.flags = { softDelete := entry.softDelete, isProtected := entry.isProtected,
                      permission := entry.permission }

/-- The entry is rejected under its own name for the first of its properties whose type is
unknown. -/
structure IsRejectedAs (entry : EntityEntry) (r : Rejection) : Prop where
  name : r.name = entry.name
  first_unknown : ∃ front p back, entry.properties = front ++ p :: back ∧
    (∀ other ∈ front, ∃ type, PropertyType.parse other.type = .ok type) ∧
    PropertyType.parse p.type = .error r.cause

variable {entry : EntityEntry} {d : Definition} {cause : DomainError}

theorem definition_eq_ok_iff : entry.definition = .ok d ↔ entry.Describes d := by
  unfold definition
  simp only [bind_eq_ok_iff, mapM_eq_ok_iff, PropertyEntry.property_eq_ok_iff]
  constructor
  · rintro ⟨properties, hproperties, ⟨⟩⟩
    exact ⟨rfl, rfl, rfl, hproperties, rfl⟩
  · rintro ⟨hname, hplural, hlambda, hproperties, hflags⟩
    refine ⟨d.draft.properties, hproperties, ?_⟩
    rw [← hname, ← hplural, ← hlambda, ← hflags]
    rfl

theorem definition_eq_error_iff :
    entry.definition = .error cause ↔ entry.IsRejectedAs { name := entry.name, cause } := by
  unfold definition
  simp only [bind_eq_error_iff, mapM_eq_error_iff, PropertyEntry.exists_property_iff,
    PropertyEntry.property_eq_error_iff]
  constructor
  · rintro (h | ⟨_, _, h⟩)
    · exact ⟨rfl, h⟩
    · cases h
  · rintro ⟨-, h⟩
    exact .inl h

theorem isRejectedAs_iff {r : Rejection} :
    entry.IsRejectedAs r ↔ entry.definition = .error r.cause ∧ r.name = entry.name := by
  rw [definition_eq_error_iff]
  constructor
  · rintro ⟨hname, hfirst⟩
    exact ⟨⟨rfl, hfirst⟩, hname⟩
  · rintro ⟨⟨-, hfirst⟩, hname⟩
    exact ⟨hname, hfirst⟩

/-- What is taken over is not rejected. -/
theorem Describes.not_isRejectedAs (h : entry.Describes d) (r : Rejection) :
    ¬entry.IsRejectedAs r := by
  intro hr
  obtain ⟨hrefused, -⟩ := isRejectedAs_iff.mp hr
  rw [definition_eq_ok_iff.mpr h] at hrefused
  cases hrefused

theorem exists_isRejectedAs_iff : (∃ r, entry.IsRejectedAs r) ↔
    ∃ p ∈ entry.properties, ∀ type, PropertyType.parse p.type ≠ .ok type := by
  constructor
  · rintro ⟨r, -, front, p, back, hsplit, -, hrefusal⟩
    refine ⟨p, by simp [hsplit], ?_⟩
    intro type htype
    rw [hrefusal] at htype
    cases htype
  · rintro ⟨p, hp, hunknown⟩
    cases hdefinition : entry.definition with
    | error cause => exact ⟨_, definition_eq_error_iff.mp hdefinition⟩
    | ok d =>
      obtain ⟨properties, hproperties, -⟩ := bind_eq_ok_iff.mp hdefinition
      obtain ⟨type, htype⟩ :=
        PropertyEntry.exists_property_iff.mp (exists_ok_of_mapM hproperties p hp)
      exact absurd htype (hunknown type)

end EntityEntry

/-! ### Manifests -/

namespace Manifest

variable (m : Manifest)

/-- **The definitions and the rejections part the entries.** -/
theorem parted_domain : Parted EntityEntry.Describes EntityEntry.IsRejectedAs m.entities
    m.domain.definitions m.domain.rejected := by
  unfold domain definitions rejected
  induction m.entities with
  | nil => exact .nil
  | cons entry entries ih =>
    cases h : entry.definition with
    | ok d =>
      simp only [List.filterMap_cons, h]
      exact .left (EntityEntry.definition_eq_ok_iff.mp h) ih
    | error cause =>
      simp only [List.filterMap_cons, h]
      exact .right (EntityEntry.definition_eq_error_iff.mp h) ih

/-- What a report and the rejections of a manifest say about its entries. -/
structure Accounts (kinds : List ArtifactKind) (r : Report) : Prop where
  /-- Each entry, in order, has a section for the definition that it describes, or a rejection. -/
  parted : Parted (fun entry s => ∃ d : Definition, entry.Describes d ∧ s.Reports kinds d)
    EntityEntry.IsRejectedAs m.entities r.sections m.domain.rejected
  length : r.sections.length + m.domain.rejected.length = m.entities.length

variable {m}

theorem accounts_of_report {kinds : List ArtifactKind} {r : Report}
    (h : r.Accounts kinds m.domain.definitions) : m.Accounts kinds r := by
  have hparted := m.parted_domain.comp_left h.sections
  exact ⟨hparted, hparted.length_add⟩

end Manifest

/-- **No entry of a manifest is dropped.** The definitions and the rejections of a manifest are its
entries, parted and in order. An entry is rejected exactly when the type of one of its properties is
unknown, and then for the first of them; what is taken over is never rejected. When the definitions
are planned or run, whatever the sink does, each entry has one section or one rejection. -/
theorem no_entry_dropped (m : Manifest) :
    Parted EntityEntry.Describes EntityEntry.IsRejectedAs m.entities m.domain.definitions
      m.domain.rejected ∧
    (∀ entry : EntityEntry,
      ((∃ r, entry.IsRejectedAs r) ↔
        ∃ p ∈ entry.properties, ∀ type, PropertyType.parse p.type ≠ .ok type) ∧
      ∀ d r, ¬(entry.Describes d ∧ entry.IsRejectedAs r)) ∧
    ∀ (l : Layout) (kinds : List ArtifactKind),
      m.Accounts kinds (l.planBatch kinds m.domain.definitions) ∧
      ∀ {σ : Type} (sink : Sink (StateM σ)) (s : σ),
        m.Accounts kinds ((l.generateBatch sink kinds m.domain.definitions).run s).1 := by
  refine ⟨m.parted_domain, ?_, ?_⟩
  · intro entry
    exact ⟨EntityEntry.exists_isRejectedAs_iff, fun d r h => h.1.not_isRejectedAs r h.2⟩
  · intro l kinds
    refine ⟨Manifest.accounts_of_report (l.accounts_planBatch kinds _), ?_⟩
    intro σ sink s
    exact Manifest.accounts_of_report (l.accounts_generateBatch sink kinds _ s)

/-- Of two entries the one with an unknown type is rejected. -/
example :
    let m : Manifest := { entities :=
      [{ name := "Ghost", properties := [{ name := "Id", type := " Blob " }] },
       { name := "Order", properties := [{ name := "Id", type := " GUID ", isKey := true }] }] }
    m.domain.rejected = [{ name := "Ghost", cause := .unknownPropertyType "blob" }] ∧
      m.domain.definitions.map (·.draft.name) = ["Order"] := by
  decide +kernel

end Scaffold
