/-
  Scaffold/Proofs/Entity/Building.lean
  ====================================
  **Which drafts describe an entity, and which entity they describe.**

  `Draft.Admissible` lists what a draft has to fulfil, each condition about the draft alone and none
  of them in the order in which `Draft.build` checks. `Entity.Describes` says how an entity follows
  from a draft: the names in PascalCase, the properties in declaration order, the one key, a
  relationship for each foreign key.

  Main statement: a draft can be built exactly when it is admissible, and what is built is described
  by the draft. A derived plural and a derived lambda parameter are never the reason for a refusal.
-/
import Scaffold.Entity
import Scaffold.Proofs.Name.Identifier
import Scaffold.Proofs.Refusal
import Scaffold.Proofs.Text

namespace Scaffold

/-! ### Normal forms of properties -/

namespace Property

/-- A property with its names in PascalCase. -/
def normalised (p : Property) : Property :=
  { name := Name.pascal p.name, type := p.type, isKey := p.isKey,
    parent := p.parent.map Name.pascal }

/-- The names of a property are identifiers once they are in PascalCase. -/
def IsNamed (p : Property) : Prop :=
  Name.isIdentifier (Name.pascal p.name) = true ∧
    ∀ parent, p.parent = some parent → Name.isIdentifier (Name.pascal parent) = true

@[simp] theorem name_normalised (p : Property) : p.normalised.name = Name.pascal p.name := by
  simp only [normalised]

@[simp] theorem isKey_normalised (p : Property) : p.normalised.isKey = p.isKey := by
  simp only [normalised]

end Property

/-! ### What a draft has to fulfil -/

namespace Draft

/-- The plural that the user chose; a blank one is no choice. -/
def chosenPlural (d : Draft) : Option String := d.plural.filter fun given => !Text.isBlank given

/-- The lambda parameter that the user chose; a blank one is no choice. -/
def chosenLambda (d : Draft) : Option String := d.lambda.filter fun given => !Text.isBlank given

/-- The plural of the entity: the chosen one in PascalCase, else the English one. -/
def entityPlural (d : Draft) : String :=
  d.chosenPlural.elim (Plural.of (Name.pascal d.name)) Name.pascal

/-- The lambda parameter of the entity: the chosen one trimmed, else the default. -/
def entityLambda (d : Draft) : String :=
  d.chosenLambda.elim (Name.defaultLambda (Name.pascal d.name)) Text.trim

/-- A draft that describes an entity. -/
structure Admissible (d : Draft) : Prop where
  given : Text.isBlank d.name = false
  name : Name.isIdentifier (Name.pascal d.name) = true
  plural : Name.isIdentifier d.entityPlural = true
  lambda : Name.isIdentifier d.entityLambda = true
  lambda_free : Name.isKeyword d.entityLambda = false ∧ Name.isReserved d.entityLambda = false
  properties : ∀ p ∈ d.properties, p.IsNamed
  distinct : (d.properties.map fun p => Name.pascal p.name).Nodup
  one_key : d.properties.countP (·.isKey) = 1

end Draft

/-- The entity that a draft describes. -/
structure Entity.Describes (e : Entity) (d : Draft) : Prop where
  name : e.name = Name.pascal d.name
  plural : e.plural = d.entityPlural
  lambda : e.lambda = d.entityLambda
  properties : e.properties = d.properties.map Property.normalised
  key : e.properties.filter (·.isKey) = [e.key]
  relationships : e.relationships.map (fun r => (r.property, r.parent)) =
    e.properties.filterMap fun p => p.parent.map fun parent => (p.name, parent)

namespace Draft

/-! ### The single checks -/

theorem requireIdentifier_eq_ok_iff {field value : String} {answer : Unit} :
    requireIdentifier field value = .ok answer ↔ Name.isIdentifier value = true := by
  unfold requireIdentifier
  by_cases h : Name.isIdentifier value = true <;> simp [h]

theorem requireLambda_eq_ok_iff {lambda : String} {answer : Unit} :
    requireLambda lambda = .ok answer ↔ Name.isIdentifier lambda = true ∧
      Name.isKeyword lambda = false ∧ Name.isReserved lambda = false := by
  unfold requireLambda
  rw [bind_eq_ok_iff]
  by_cases hkeyword : Name.isKeyword lambda = true <;>
    by_cases hreserved : Name.isReserved lambda = true <;>
    simp [requireIdentifier_eq_ok_iff, hkeyword, hreserved, pure, Except.pure]

/-- A property is refused exactly when one of its names is; an empty name is no identifier. -/
theorem normalise_eq_ok_iff {entity : String} {p q : Property} :
    normalise entity p = .ok q ↔ p.IsNamed ∧ p.normalised = q := by
  rcases p with ⟨name, type, isKey, parent⟩
  by_cases hname : Name.isIdentifier (Name.pascal name) = true
  · have hne : (Name.pascal name).isEmpty = false :=
      String.isEmpty_eq_false_iff.mpr (Name.ne_empty_of_isIdentifier hname)
    cases parent with
    | none =>
      simp [normalise, requireIdentifier, Property.IsNamed, Property.normalised, hname, hne, bind,
        Except.bind, pure, Except.pure]
    | some parent =>
      by_cases hparent : Name.isIdentifier (Name.pascal parent) = true <;>
        simp [normalise, requireIdentifier, Property.IsNamed, Property.normalised, hname, hne,
          hparent, bind, Except.bind, pure, Except.pure]
  · by_cases hempty : (Name.pascal name).isEmpty = true <;>
      simp [normalise, requireIdentifier, Property.IsNamed, hname, hempty, bind, Except.bind]

theorem normaliseAll_eq_ok_iff {entity : String} {ps qs : List Property} :
    normaliseAll entity ps = .ok qs ↔
      (∀ p ∈ ps, p.IsNamed) ∧ ps.map Property.normalised = qs := by
  induction ps generalizing qs with
  | nil => simp [normaliseAll]
  | cons p ps ih =>
    simp only [normaliseAll, bind_eq_ok_iff, normalise_eq_ok_iff, ih, List.forall_mem_cons,
      List.map_cons, pure, Except.pure, Except.ok.injEq]
    constructor
    · rintro ⟨_, ⟨hp, rfl⟩, _, ⟨hps, rfl⟩, rfl⟩
      exact ⟨⟨hp, hps⟩, rfl⟩
    · rintro ⟨⟨hp, hps⟩, rfl⟩
      exact ⟨_, ⟨hp, rfl⟩, _, ⟨hps, rfl⟩, rfl⟩

theorem firstRepeated?_eq_none_iff {seen names : List String} :
    firstRepeated? seen names = none ↔ names.Nodup ∧ ∀ name ∈ names, name ∉ seen := by
  induction names generalizing seen with
  | nil => simp [firstRepeated?]
  | cons name rest ih =>
    simp only [firstRepeated?, List.contains_eq_mem, decide_eq_true_eq, List.nodup_cons,
      List.forall_mem_cons]
    by_cases hseen : name ∈ seen
    · simp [hseen]
    · simp only [hseen, if_false, ih, List.mem_cons, not_or, not_false_eq_true, true_and]
      constructor
      · rintro ⟨hrest, hfresh⟩
        exact ⟨⟨fun hmem => (hfresh name hmem).1 rfl, hrest⟩, fun x hx => (hfresh x hx).2⟩
      · rintro ⟨⟨hnot, hrest⟩, hfresh⟩
        refine ⟨hrest, fun x hx => ⟨?_, hfresh x hx⟩⟩
        rintro rfl
        exact hnot hx

theorem requireKey_eq_ok_iff {entity : String} {ps : List Property} {key : Property} :
    requireKey entity ps = .ok key ↔ ps.filter (·.isKey) = [key] := by
  unfold requireKey
  split
  · next found hfound => simp [hfound]
  · next hnone => simp [hnone]
  · next hone _ => simpa using fun h => hone key h

/-! ### The whole build -/

theorem pascal_trim (s : String) : Name.pascal (Text.trim s) = Name.pascal s := by
  simp only [Name.pascal, Text.trim_trim]

theorem bind_nonBlank? (given : Option String) :
    given.bind Text.nonBlank? = (given.filter fun s => !Text.isBlank s).map Text.trim := by
  cases given with
  | none => rfl
  | some s =>
    by_cases h : Text.isBlank s = true <;> simp [Text.nonBlank?, Option.filter, h]

theorem pluralFor_eq (d : Draft) : d.pluralFor (Name.pascal d.name) = d.entityPlural := by
  have hchosen : d.plural.bind Text.nonBlank? = d.chosenPlural.map Text.trim :=
    bind_nonBlank? d.plural
  simp only [pluralFor, hchosen, entityPlural]
  cases d.chosenPlural with
  | none => simp only [Option.map_none, Option.elim_none]
  | some chosen => simp only [Option.map_some, Option.elim_some, pascal_trim]

theorem lambdaFor_eq (d : Draft) : d.lambdaFor (Name.pascal d.name) = d.entityLambda := by
  have hchosen : d.lambda.bind Text.nonBlank? = d.chosenLambda.map Text.trim :=
    bind_nonBlank? d.lambda
  simp only [lambdaFor, hchosen, entityLambda]
  cases d.chosenLambda with
  | none => simp only [Option.map_none, Option.getD_none, Option.elim_none]
  | some chosen => simp only [Option.map_some, Option.getD_some, Option.elim_some]

/-- The entity that a draft describes, its key property given. -/
def entityWith (d : Draft) (key : Property) : Entity :=
  { name := Name.pascal d.name, plural := d.entityPlural, lambda := d.entityLambda
    properties := d.properties.map Property.normalised, key
    relationships := relationships (Name.pascal d.name) (d.properties.map Property.normalised) }

theorem countP_isKey_eq_one_iff (ps : List Property) :
    ps.countP (·.isKey) = 1 ↔ ∃ key, (ps.map Property.normalised).filter (·.isKey) = [key] := by
  simp only [List.countP_eq_length_filter, List.filter_map, Function.comp_def,
    Property.isKey_normalised, ← List.length_eq_one_iff, List.length_map]

/-- A draft is built exactly when it is admissible, to the entity with its one key. -/
theorem build_eq_ok_iff {d : Draft} {e : Entity} :
    d.build = .ok e ↔ d.Admissible ∧
      ∃ key, (d.properties.map Property.normalised).filter (·.isKey) = [key] ∧
        d.entityWith key = e := by
  have hdistinct : ∀ ps : List Property,
      firstRepeated? [] ((ps.map Property.normalised).map (·.name)) = none ↔
        (ps.map fun p => Name.pascal p.name).Nodup := by
    intro ps
    simp only [firstRepeated?_eq_none_iff, List.map_map, Function.comp_def,
      Property.name_normalised, List.not_mem_nil, not_false_eq_true, implies_true, and_true]
  unfold build
  by_cases hblank : Text.isBlank d.name = true
  · have hnot : ¬d.Admissible := fun h => by simp [h.given] at hblank
    simp [hblank, hnot, bind, Except.bind]
  · simp only [hblank, if_false, Bool.false_eq_true, pluralFor_eq, lambdaFor_eq, bind_eq_ok_iff,
      requireIdentifier_eq_ok_iff, requireLambda_eq_ok_iff, normaliseAll_eq_ok_iff]
    constructor
    · rintro ⟨_, hname, _, hplural, _, ⟨hlambda, hfree⟩, _, ⟨hnamed, rfl⟩, hbuilt⟩
      split at hbuilt
      · cases hbuilt
      · next hnone =>
        obtain ⟨key, hkey, hentity⟩ := bind_eq_ok_iff.mp hbuilt
        have hone := requireKey_eq_ok_iff.mp hkey
        refine ⟨⟨by simpa using hblank, hname, hplural, hlambda, hfree, hnamed,
          (hdistinct _).mp hnone, (countP_isKey_eq_one_iff _).mpr ⟨key, hone⟩⟩, key, hone, ?_⟩
        simpa only [entityWith, pure, Except.pure, Except.ok.injEq] using hentity
    · rintro ⟨h, key, hkey, rfl⟩
      refine ⟨(), h.name, (), h.plural, (), ⟨h.lambda, h.lambda_free⟩, _, ⟨h.properties, rfl⟩, ?_⟩
      simp only [(hdistinct _).mpr h.distinct, bind_eq_ok_iff, requireKey_eq_ok_iff]
      exact ⟨key, hkey, by simp only [entityWith, pure, Except.pure]⟩

theorem describes_of_build {d : Draft} {e : Entity} (h : d.build = .ok e) : e.Describes d := by
  obtain ⟨-, key, hkey, rfl⟩ := build_eq_ok_iff.mp h
  constructor <;> simp only [entityWith]
  · exact hkey
  · simp only [relationships, List.map_filterMap, Option.map_map, Function.comp_def]

theorem admissible_of_build {d : Draft} {e : Entity} (h : d.build = .ok e) : d.Admissible :=
  (build_eq_ok_iff.mp h).1

theorem Admissible.build {d : Draft} (h : d.Admissible) : ∃ e, d.build = .ok e := by
  obtain ⟨key, hkey⟩ := (countP_isKey_eq_one_iff d.properties).mp h.one_key
  exact ⟨d.entityWith key, build_eq_ok_iff.mpr ⟨h, key, hkey, rfl⟩⟩

end Draft

/-! ### What a refusal is about -/

/-- Whether a cause refuses the value of the given field as an identifier. -/
def DomainError.Concerns (cause : DomainError) (field : String) : Prop :=
  ∃ value reason, cause = .invalidIdentifier field value reason

theorem DomainError.Concerns.unique {cause : DomainError} {field other : String}
    (h : cause.Concerns field) (h' : cause.Concerns other) : field = other := by
  obtain ⟨value, reason, rfl⟩ := h
  obtain ⟨value', reason', heq⟩ := h'
  injection heq

namespace Draft

theorem concerns_of_requireIdentifier {field value : String} {cause : DomainError}
    (h : requireIdentifier field value = .error cause) :
    Name.isIdentifier value = false ∧ cause.Concerns field := by
  unfold requireIdentifier at h
  split at h
  · cases h
  · next hnot =>
    cases h
    exact ⟨by simpa using hnot, _, _, rfl⟩

theorem concerns_of_requireLambda {lambda : String} {cause : DomainError}
    (h : requireLambda lambda = .error cause) :
    (Name.isIdentifier lambda = true →
      Name.isKeyword lambda = true ∨ Name.isReserved lambda = true) ∧
      cause.Concerns "lambda" := by
  rcases bind_eq_error_iff.mp h with h | ⟨_, -, h⟩
  · obtain ⟨hnot, hconcerns⟩ := concerns_of_requireIdentifier h
    exact ⟨fun hident => absurd hident (by simp [hnot]), hconcerns⟩
  · split at h
    · next hclash =>
      cases h
      exact ⟨fun _ => by simpa using hclash, _, _, rfl⟩
    · cases h

theorem concerns_of_normalise {entity : String} {p : Property} {cause : DomainError}
    (h : normalise entity p = .error cause) :
    cause.Concerns "property name" ∨ cause.Concerns "foreign entity" := by
  rcases p with ⟨name, type, isKey, parent⟩
  by_cases hempty : (Name.pascal name).isEmpty = true
  · simp only [normalise, hempty, if_true, bind, Except.bind, Except.error.injEq] at h
    exact .inl ⟨_, _, h.symm⟩
  · by_cases hname : Name.isIdentifier (Name.pascal name) = true
    · cases parent with
      | none =>
        simp [normalise, requireIdentifier, hempty, hname, bind, Except.bind, pure,
          Except.pure] at h
      | some parent =>
        by_cases hparent : Name.isIdentifier (Name.pascal parent) = true
        · simp [normalise, requireIdentifier, hempty, hname, hparent, bind, Except.bind, pure,
            Except.pure] at h
        · simp only [normalise, requireIdentifier, hempty, hname, hparent, bind, Except.bind,
            Bool.false_eq_true, if_true, if_false, Except.error.injEq] at h
          exact .inr ⟨_, _, h.symm⟩
    · simp only [normalise, requireIdentifier, hempty, hname, bind, Except.bind,
        Bool.false_eq_true, if_false, Except.error.injEq] at h
      exact .inl ⟨_, _, h.symm⟩

theorem concerns_of_normaliseAll {entity : String} {ps : List Property} {cause : DomainError}
    (h : normaliseAll entity ps = .error cause) :
    cause.Concerns "property name" ∨ cause.Concerns "foreign entity" := by
  induction ps with
  | nil => cases h
  | cons p ps ih =>
    rcases bind_eq_error_iff.mp h with h | ⟨_, -, h⟩
    · exact concerns_of_normalise h
    · rcases bind_eq_error_iff.mp h with h | ⟨_, -, h⟩
      · exact ih h
      · cases h

theorem not_concerns_of_requireKey {entity : String} {ps : List Property} {cause : DomainError}
    (h : requireKey entity ps = .error cause) (field : String) : ¬cause.Concerns field := by
  rintro ⟨value, reason, rfl⟩
  unfold requireKey at h
  split at h <;> cases h

/-- What a refusal of a draft can be about, with the check that failed where the plural or the
lambda parameter is refused. -/
theorem concerns_of_build {d : Draft} {cause : DomainError} {field : String}
    (h : d.build = .error cause) (hfield : cause.Concerns field) :
    field = "entity name" ∨ field = "property name" ∨ field = "foreign entity" ∨
      (field = "entity plural" ∧ Name.isIdentifier (Name.pascal d.name) = true ∧
        Name.isIdentifier d.entityPlural = false) ∨
      (field = "lambda" ∧ Name.isIdentifier (Name.pascal d.name) = true ∧
        (Name.isIdentifier d.entityLambda = true →
          Name.isKeyword d.entityLambda = true ∨ Name.isReserved d.entityLambda = true)) := by
  unfold build at h
  by_cases hblank : Text.isBlank d.name = true
  · simp only [hblank, if_true, bind, Except.bind, Except.error.injEq] at h
    subst h
    obtain ⟨_, _, hnever⟩ := hfield
    cases hnever
  · simp only [hblank, if_false, Bool.false_eq_true, pluralFor_eq, lambdaFor_eq] at h
    rcases bind_eq_error_iff.mp h with h | ⟨_, hname, h⟩
    · exact .inl (hfield.unique (concerns_of_requireIdentifier h).2)
    have hname := requireIdentifier_eq_ok_iff.mp hname
    rcases bind_eq_error_iff.mp h with h | ⟨_, -, h⟩
    · obtain ⟨hplural, hconcerns⟩ := concerns_of_requireIdentifier h
      exact .inr (.inr (.inr (.inl ⟨hfield.unique hconcerns, hname, hplural⟩)))
    rcases bind_eq_error_iff.mp h with h | ⟨_, -, h⟩
    · obtain ⟨hlambda, hconcerns⟩ := concerns_of_requireLambda h
      exact .inr (.inr (.inr (.inr ⟨hfield.unique hconcerns, hname, hlambda⟩)))
    rcases bind_eq_error_iff.mp h with h | ⟨_, -, h⟩
    · rcases concerns_of_normaliseAll h with hconcerns | hconcerns
      · exact .inr (.inl (hfield.unique hconcerns))
      · exact .inr (.inr (.inl (hfield.unique hconcerns)))
    split at h
    · cases h
      obtain ⟨_, _, hnever⟩ := hfield
      cases hnever
    · rcases bind_eq_error_iff.mp h with h | ⟨_, -, h⟩
      · exact absurd hfield (not_concerns_of_requireKey h field)
      · cases h

/-! ### Soundness and completeness -/

/-- **A draft is built exactly when it is admissible**, and the entity is the one that it describes.
Where the user chose no plural, the build is never refused for the plural, and where no lambda
parameter was chosen, never for the lambda parameter: with neither, only the name, the properties
and the key decide. -/
theorem build_iff_admissible (d : Draft) :
    ((∃ e, d.build = .ok e) ↔ d.Admissible) ∧
    (∀ e, d.build = .ok e → e.Describes d) ∧
    (d.chosenPlural = none → ∀ cause, d.build = .error cause → ¬cause.Concerns "entity plural") ∧
    (d.chosenLambda = none → ∀ cause, d.build = .error cause → ¬cause.Concerns "lambda") ∧
    (d.chosenPlural = none → d.chosenLambda = none →
      ((∃ e, d.build = .ok e) ↔
        Text.isBlank d.name = false ∧ Name.isIdentifier (Name.pascal d.name) = true ∧
        (∀ p ∈ d.properties, p.IsNamed) ∧ (d.properties.map fun p => Name.pascal p.name).Nodup ∧
        d.properties.countP (·.isKey) = 1)) := by
  have hplural : d.chosenPlural = none → Name.isIdentifier (Name.pascal d.name) = true →
      Name.isIdentifier d.entityPlural = true := by
    intro hnone hname
    rw [entityPlural, hnone, Option.elim_none]
    exact Plural.isIdentifier_of hname
  have hlambda : d.chosenLambda = none →
      d.entityLambda = Name.defaultLambda (Name.pascal d.name) := by
    intro hnone
    rw [entityLambda, hnone, Option.elim_none]
  have hiff : (∃ e, d.build = .ok e) ↔ d.Admissible :=
    ⟨fun ⟨_, h⟩ => admissible_of_build h, Admissible.build⟩
  refine ⟨hiff, fun e => describes_of_build, ?_, ?_, ?_⟩
  · intro hnone cause h hconcerns
    obtain h | h | h | ⟨-, hname, hnot⟩ | ⟨h, -⟩ := concerns_of_build h hconcerns
    · exact absurd h (by decide)
    · exact absurd h (by decide)
    · exact absurd h (by decide)
    · rw [hplural hnone hname] at hnot
      cases hnot
    · exact absurd h (by decide)
  · intro hnone cause h hconcerns
    obtain h | h | h | ⟨h, -⟩ | ⟨-, hname, hnot⟩ := concerns_of_build h hconcerns
    · exact absurd h (by decide)
    · exact absurd h (by decide)
    · exact absurd h (by decide)
    · exact absurd h (by decide)
    · rw [hlambda hnone] at hnot
      rcases hnot (Name.isIdentifier_defaultLambda hname) with hclash | hclash
      · simp [Name.isKeyword_defaultLambda hname] at hclash
      · simp [Name.isReserved_defaultLambda hname] at hclash
  · intro hnoPlural hnoLambda
    rw [hiff]
    constructor
    · intro h
      exact ⟨h.given, h.name, h.properties, h.distinct, h.one_key⟩
    · rintro ⟨hgiven, hname, hproperties, hdistinct, hkey⟩
      refine ⟨hgiven, hname, hplural hnoPlural hname, ?_, ?_, hproperties, hdistinct, hkey⟩
      · rw [hlambda hnoLambda]
        exact Name.isIdentifier_defaultLambda hname
      · rw [hlambda hnoLambda]
        exact ⟨Name.isKeyword_defaultLambda hname, Name.isReserved_defaultLambda hname⟩

end Draft

end Scaffold
