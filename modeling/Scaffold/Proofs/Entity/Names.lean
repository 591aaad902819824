/-
  Scaffold/Proofs/Entity/Names.lean
  =================================
  **Every name in a built entity is an identifier.**

  Generated text and generated paths are put together from these names, so this is all that a proof
  about a file has to know of `Draft.build`.
-/
import Scaffold.Proofs.Entity.Building
import Scaffold.Proofs.Name.Composite

namespace Scaffold

structure Relationship.IsNamed (r : Relationship) : Prop where
  property : Name.isIdentifier r.property = true
  parent : Name.isIdentifier r.parent = true
  seed_variable : Name.isIdentifier r.seedVariable = true
  parent_key : Name.isIdentifier r.parentKey = true

structure Entity.IsNamed (e : Entity) : Prop where
  name : Name.isIdentifier e.name = true
  plural : Name.isIdentifier e.plural = true
  lambda : Name.isIdentifier e.lambda = true
  key : Name.isIdentifier e.key.name = true
  properties : ∀ p ∈ e.properties, Name.isIdentifier p.name = true
  relationships : ∀ r ∈ e.relationships, r.IsNamed

namespace Draft

variable {d : Draft} {e : Entity}

/-- A relationship comes from a foreign key. -/
theorem mem_relationships_iff {entity : String} {properties : List Property} {r : Relationship} :
    r ∈ relationships entity properties ↔ ∃ p ∈ properties, ∃ parent, p.parent = some parent ∧
      { property := p.name, parent
        seedVariable := seedVariable entity properties p.name parent
        parentKey := Name.defaultParentKey } = r := by
  simp only [relationships, List.mem_filterMap, Option.map_eq_some_iff]

theorem isIdentifier_seedVariable {entity property parent : String} (properties : List Property)
    (hproperty : Name.isIdentifier property = true) (hparent : Name.isIdentifier parent = true) :
    Name.isIdentifier (seedVariable entity properties property parent) = true := by
  have hfake : Name.isIdentifier ("fake" ++ parent) = true :=
    Name.isIdentifier_append_identifier (by decide) hparent
  unfold seedVariable
  split
  · have hfor : Name.isIdentifier ("fake" ++ parent ++ "For") = true :=
      Name.isIdentifier_append_identifier hfake (by decide)
    exact Name.isIdentifier_append_identifier hfor hproperty
  · exact Name.isIdentifier_append_identifier hfake (by decide)

theorem relationships_of_build (h : d.build = .ok e) :
    e.relationships = relationships e.name e.properties := by
  obtain ⟨-, key, -, rfl⟩ := build_eq_ok_iff.mp h
  simp only [entityWith]

theorem properties_of_build (h : d.build = .ok e) {p : Property} (hp : p ∈ e.properties) :
    Name.isIdentifier p.name = true ∧
      ∀ parent, p.parent = some parent → Name.isIdentifier parent = true := by
  rw [(describes_of_build h).properties] at hp
  obtain ⟨given, hgiven, rfl⟩ := List.mem_map.mp hp
  obtain ⟨hname, hparent⟩ := (admissible_of_build h).properties given hgiven
  rw [Property.name_normalised]
  refine ⟨hname, ?_⟩
  intro parent hsome
  obtain ⟨raw, hraw, rfl⟩ := Option.map_eq_some_iff.mp hsome
  exact hparent raw hraw

theorem key_mem_of_build (h : d.build = .ok e) : e.key ∈ e.properties := by
  have hmem : e.key ∈ e.properties.filter (·.isKey) := by simp [(describes_of_build h).key]
  exact List.mem_of_mem_filter hmem

/-- **What is built is named by identifiers throughout.** -/
theorem isNamed_of_build (h : d.build = .ok e) : e.IsNamed := by
  have hadmissible : d.Admissible := admissible_of_build h
  have hdescribes : e.Describes d := describes_of_build h
  constructor
  · rw [hdescribes.name]
    exact hadmissible.name
  · rw [hdescribes.plural]
    exact hadmissible.plural
  · rw [hdescribes.lambda]
    exact hadmissible.lambda
  · exact (properties_of_build h (key_mem_of_build h)).1
  · exact fun p hp => (properties_of_build h hp).1
  · intro r hr
    rw [relationships_of_build h] at hr
    obtain ⟨p, hp, parent, hparent, rfl⟩ := mem_relationships_iff.mp hr
    obtain ⟨hname, hnamed⟩ := properties_of_build h hp
    have hdefault : Name.isIdentifier Name.defaultParentKey = true := by decide
    exact ⟨hname, hnamed parent hparent, isIdentifier_seedVariable _ hname (hnamed parent hparent),
      hdefault⟩

/-- A draft with nothing but a name, a plural and a key. -/
def bare (name plural : String) : Draft :=
  { name, plural := some plural
    properties := [{ name := "Id", type := .guid, isKey := true }] }

/-- A draft with foreign keys, each a property and the parent that it points at. -/
def child (name : String) (lambda : Option String) (keys : List (String × String)) : Draft :=
  { name, lambda
    properties := { name := "Id", type := .guid, isKey := true } ::
      keys.map fun key => { name := key.1, type := .guid, parent := some key.2 } }

/-- Two parents of one name, one of another, and the entity itself. -/
def transfer : Draft :=
  child "Transfer" none [("SourceId", "Account"), ("TargetId", "Account"), ("OwnerId", "User"),
    ("PreviousId", "Transfer")]

end Draft

end Scaffold
