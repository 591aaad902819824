/-
  Scaffold/Proofs/Entity/Built.lean
  =================================
  **Entities that files are rendered from.**

  A draft that builds gives an entity, and a batch then points its relationships at the keys of the
  parents that it knows. Keys are names of properties. Whatever the keys, the entity is named by
  identifiers, and its relationships are its foreign keys in declaration order.
-/
import Scaffold.Batch
import Scaffold.Proofs.Entity.Names

namespace Scaffold

/-- The entity comes from a draft; its relationships may have been pointed at keys, any number of
times. -/
inductive Entity.Built : Entity → Prop
  | draft {d : Draft} {e : Entity} (build : d.build = .ok e) : Built e
  | withParentKeys {e : Entity} (built : Built e) {key? : String → Option String}
      (named : ∀ parent key, key? parent = some key → Name.isIdentifier key = true) :
      Built (e.withParentKeys key?)

namespace Entity

variable {e : Entity}

theorem IsNamed.withParentKeys (he : e.IsNamed) {key? : String → Option String}
    (named : ∀ parent key, key? parent = some key → Name.isIdentifier key = true) :
    (e.withParentKeys key?).IsNamed where
  name := he.name
  plural := he.plural
  lambda := he.lambda
  key := he.key
  properties := he.properties
  relationships := by
    intro r hr
    obtain ⟨given, hgiven, rfl⟩ := List.mem_map.mp hr
    have hnamed : given.IsNamed := he.relationships given hgiven
    refine ⟨hnamed.property, hnamed.parent, hnamed.seed_variable, ?_⟩
    cases hkey : key? given.parent with
    | none => exact hnamed.parent_key
    | some key => exact named given.parent key hkey

theorem Built.isNamed (h : e.Built) : e.IsNamed := by
  induction h with
  | draft build => exact Draft.isNamed_of_build build
  | withParentKeys _ named ih => exact ih.withParentKeys named

/-- One relationship for each foreign key, with its property and its parent, in declaration order. -/
theorem Built.relationships (h : e.Built) :
    e.relationships.map (fun r => (r.property, some r.parent)) =
      (e.properties.filter (·.isForeign)).map fun p => (p.name, p.parent) := by
  induction h with
  | @draft d e build =>
    rw [Draft.relationships_of_build build, Draft.relationships]
    generalize Draft.seedVariable e.name e.properties = variableFor
    induction e.properties with
    | nil => rfl
    | cons p properties ih =>
      cases hparent : p.parent with
      | none =>
        have hforeign : ¬p.isForeign = true := by simp [Property.isForeign, hparent]
        rw [List.filterMap_cons_none (by rw [hparent]; rfl), List.filter_cons_of_neg hforeign, ih]
      | some parent =>
        have hforeign : p.isForeign = true := by simp [Property.isForeign, hparent]
        rw [List.filterMap_cons_some (by rw [hparent]; rfl), List.filter_cons_of_pos hforeign,
          List.map_cons, List.map_cons, ih, hparent]
  | withParentKeys _ _ ih =>
    rw [Entity.withParentKeys, List.map_map]
    exact ih

end Entity

/-- The keys of a batch are names of properties. -/
theorem Definition.isIdentifier_of_keyOf? {batch : List Definition} {parent key : String}
    (h : keyOf? batch parent = some key) : Name.isIdentifier key = true := by
  obtain ⟨front, back, hsplit, -⟩ := List.lookup_eq_some_iff.mp h
  have hmem : (parent, key) ∈ (keys batch).reverse := by simp [hsplit]
  obtain ⟨d, -, hd⟩ := List.mem_filterMap.mp (List.mem_reverse.mp hmem)
  obtain ⟨e, he, hpair⟩ := Option.map_eq_some_iff.mp hd
  obtain ⟨-, rfl⟩ := Prod.mk.inj hpair
  cases build : d.draft.build with
  | error cause =>
    rw [build] at he
    cases he
  | ok built =>
    rw [build] at he
    cases he
    exact (Draft.isNamed_of_build build).key

/-- What a batch renders from is built. -/
theorem Definition.built_of_build {d : Draft} {e : Entity} (build : d.build = .ok e)
    (batch : List Definition) : (e.withParentKeys (keyOf? batch)).Built :=
  .withParentKeys (.draft build) fun _ _ => isIdentifier_of_keyOf?

end Scaffold
