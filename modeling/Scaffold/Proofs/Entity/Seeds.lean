/-
  Scaffold/Proofs/Entity/Seeds.lean
  =================================
  **When seeded locals are declared once.**

  The variable of a seeded parent is its name between `fake` and `One`, or `fake`, its name, `For`
  and the property when the name alone would not tell two parents apart. Names are put together
  without a mark between them, so the two schemes meet where one name goes on as another one does
  before `For`: `Order` for `LineForSenderId` and `OrderForLine` for `SenderId` have one variable.
  That is the only way for two seeds to meet (`extends_of_seedVariable_eq`).
-/
import Mathlib.Data.List.Nodup
import Scaffold.Proofs.Entity.Names

namespace Scaffold

/-! ### Names that go on with `For` -/

/-- The name starts with the other one and `For`. -/
def Name.Extends (name front : String) : Prop := (front ++ "For").toList <+: name.toList

instance (name front : String) : Decidable (Name.Extends name front) :=
  inferInstanceAs (Decidable ((front ++ "For").toList <+: name.toList))

namespace Name

/-- Between two readings of one text, what lies between the two names is empty or starts with
`For`, as no other part of `For` starts like what follows the longer name. -/
theorem nil_or_prefix_of_append_eq {property between rest : List Char} {c : Char}
    (h : "For".toList ++ property = between ++ c :: rest) (ho : c ≠ 'o') (hr : c ≠ 'r') :
    between = [] ∨ "For".toList <+: between := by
  have hfor : "For".toList = ['F', 'o', 'r'] := rfl
  rw [hfor] at h ⊢
  match between with
  | [] => exact .inl rfl
  | [x] =>
    simp only [List.cons_append, List.nil_append, List.cons.injEq] at h
    exact absurd h.2.1.symm ho
  | [x, y] =>
    simp only [List.cons_append, List.nil_append, List.cons.injEq] at h
    exact absurd h.2.2.1.symm hr
  | x :: y :: z :: between =>
    simp only [List.cons_append, List.nil_append, List.cons.injEq] at h
    obtain ⟨rfl, rfl, rfl, -⟩ := h
    exact .inr ⟨between, rfl⟩

theorem eq_or_extends {parent other property : String} {between rest : List Char} (c : Char)
    (ho : c ≠ 'o') (hr : c ≠ 'r') (hother : other.toList = parent.toList ++ between)
    (h : "For".toList ++ property.toList = between ++ c :: rest) :
    parent = other ∨ Extends other parent := by
  rcases nil_or_prefix_of_append_eq h ho hr with rfl | ⟨behind, rfl⟩
  · rw [List.append_nil] at hother
    exact .inl (String.toList_inj.mp hother.symm)
  · refine .inr ⟨behind, ?_⟩
    rw [hother, String.toList_append, List.append_assoc]

/-- Two names with `For` behind them give one text only if they are one name, or one goes on
with `For`. -/
theorem extends_of_for_eq_for {parent other property property' : String}
    (h : parent ++ "For" ++ property = other ++ "For" ++ property') :
    parent = other ∨ Extends other parent ∨ Extends parent other := by
  have hchars : parent.toList ++ ("For".toList ++ property.toList) =
      other.toList ++ ("For".toList ++ property'.toList) := by
    simpa only [String.toList_append, List.append_assoc] using congrArg String.toList h
  rcases List.append_eq_append_iff.mp hchars with ⟨between, hother, heq⟩ | ⟨between, hparent, heq⟩
  · rcases eq_or_extends 'F' (by decide) (by decide) hother heq with hsame | hext
    · exact .inl hsame
    · exact .inr (.inl hext)
  · rcases eq_or_extends 'F' (by decide) (by decide) hparent heq with hsame | hext
    · exact .inl hsame.symm
    · exact .inr (.inr hext)

/-- A name with `For` and a property behind it reads as another name before `One` only if the other
name goes on with `For`. -/
theorem extends_of_for_eq_one {parent other property : String} (hproperty : property ≠ "")
    (h : parent ++ "For" ++ property = other ++ "One") : Extends other parent := by
  have hchars : parent.toList ++ ("For".toList ++ property.toList) =
      other.toList ++ "One".toList := by
    simpa only [String.toList_append, List.append_assoc] using congrArg String.toList h
  rcases List.append_eq_append_iff.mp hchars with ⟨between, hother, heq⟩ | ⟨between, -, heq⟩
  · rcases eq_or_extends 'O' (by decide) (by decide) hother heq with rfl | hext
    · -- one name: `For` would have to be `One`
      rw [List.append_cancel_left_eq] at hchars
      have hhead := (List.cons.inj hchars).1
      exact absurd hhead (by decide)
    · exact hext
  · -- nothing of `One` is left for the property
    have hlength := congrArg List.length heq
    have hnil : property.toList.length ≠ 0 := by
      simpa using hproperty
    simp only [List.length_append] at hlength
    have hfor : "For".toList.length = 3 := rfl
    have hthree : "One".toList.length = 3 := rfl
    omega

end Name

/-! ### Seed variables -/

namespace Draft

variable {entity : String} {properties : List Property}

/-- Without its property, a parent is the only one of its name, and not the entity itself. -/
theorem seedVariable_cases (entity : String) (properties : List Property)
    (property parent : String) :
    seedVariable entity properties property parent = "fake" ++ (parent ++ "For" ++ property) ∨
      (seedVariable entity properties property parent = "fake" ++ (parent ++ "One") ∧
        (properties.filter (·.parent == some parent)).length ≤ 1 ∧ parent ≠ entity) := by
  unfold seedVariable Name.fakeVariable
  split
  · exact .inl (by simp only [String.append_assoc])
  · rename_i hone
    simp only [Bool.or_eq_true, decide_eq_true_eq, beq_iff_eq, not_or, Nat.not_lt] at hone
    exact .inr ⟨String.append_assoc, hone⟩

theorem fake_prefix_seedVariable (entity : String) (properties : List Property)
    (property parent : String) :
    "fake".toList <+: (seedVariable entity properties property parent).toList := by
  rcases seedVariable_cases entity properties property parent with h | ⟨h, -⟩
  · rw [h, String.toList_append]
    exact List.prefix_append _ _
  · rw [h, String.toList_append]
    exact List.prefix_append _ _

/-- **Seeds meet only where one parent's name goes on as the other's does.** -/
theorem extends_of_seedVariable_eq {p q : Property} {parent other : String}
    (hp : p ∈ properties) (hq : q ∈ properties) (hparent : p.parent = some parent)
    (hother : q.parent = some other) (hpname : p.name ≠ "") (hqname : q.name ≠ "")
    (h : seedVariable entity properties p.name parent =
      seedVariable entity properties q.name other) :
    p.name = q.name ∨ Name.Extends other parent ∨ Name.Extends parent other := by
  rcases seedVariable_cases entity properties p.name parent with hfor | ⟨hone, hcount, -⟩
  · rcases seedVariable_cases entity properties q.name other with hfor' | ⟨hone', -, -⟩
    · rw [hfor, hfor', String.append_right_inj] at h
      rcases Name.extends_of_for_eq_for h with rfl | hextends
      · exact .inl ((String.append_right_inj _).mp h)
      · exact .inr hextends
    · rw [hfor, hone', String.append_right_inj] at h
      exact .inr (.inl (Name.extends_of_for_eq_one hpname h))
  · rcases seedVariable_cases entity properties q.name other with hfor' | ⟨hone', -, -⟩
    · rw [hone, hfor', String.append_right_inj] at h
      exact .inr (.inr (Name.extends_of_for_eq_one hqname h.symm))
    · rw [hone, hone', String.append_right_inj, String.append_left_inj] at h
      -- both are the only property that points at this parent
      subst h
      have hpmem : p ∈ properties.filter (·.parent == some parent) :=
        List.mem_filter.mpr ⟨hp, by simp [hparent]⟩
      have hqmem : q ∈ properties.filter (·.parent == some parent) :=
        List.mem_filter.mpr ⟨hq, by simp [hother]⟩
      have hsame : p = q := by
        match hfilter : properties.filter (·.parent == some parent) with
        | [] => simp [hfilter] at hpmem
        | [x] =>
          rw [hfilter, List.mem_singleton] at hpmem hqmem
          rw [hpmem, hqmem]
        | x :: y :: rest => simp [hfilter] at hcount
      exact .inl (by rw [hsame])

theorem extends_of_seedVariable_eq_fakeVariable {property parent : String}
    (hproperty : property ≠ "")
    (h : seedVariable entity properties property parent = Name.fakeVariable entity) :
    Name.Extends entity parent := by
  have hown : Name.fakeVariable entity = "fake" ++ (entity ++ "One") := String.append_assoc
  rcases seedVariable_cases entity properties property parent with hfor | ⟨hone, -, hne⟩
  · rw [hfor, hown, String.append_right_inj] at h
    exact Name.extends_of_for_eq_one hproperty h
  · rw [hone, hown, String.append_right_inj, String.append_left_inj] at h
    exact absurd h hne

end Draft

/-! ### Locals of the tests -/

/-- A local that starts like a seed belongs to an entity whose name does. -/
theorem Name.fake_prefix_of_localVariable {entity lambda : String}
    (h : "fake".toList <+: (localVariable entity lambda).toList) :
    "fake".toList <+: (Text.lowerFirst entity).toList := by
  unfold localVariable at h
  dsimp only at h
  split at h
  · rw [String.toList_append] at h
    rcases List.prefix_or_prefix_of_prefix h (List.prefix_append _ _) with hlong | hshort
    · exact hlong
    · obtain ⟨rest, hrest⟩ := hshort
      cases rest with
      | nil =>
        exact ⟨[], by rw [← hrest, List.append_nil, List.append_nil]⟩
      | cons c rest =>
        -- the suffix starts with a letter that `fake` does not have
        rw [← hrest, List.prefix_append_right_inj] at h
        have hE : c = 'E' := (List.cons_prefix_cons.mp h).1
        have hmem : 'E' ∈ "fake".toList := by
          rw [← hrest, ← hE]
          exact List.mem_append_right _ List.mem_cons_self
        exact absurd hmem (by decide)
  · split at h
    · rw [String.toList_append] at h
      have hat : 'f' = '@' := (List.cons_prefix_cons.mp h).1
      exact absurd hat (by decide)
    · exact h

/-! ### Every seed is declared once -/

theorem Property.sublist_foreign_names (ps : List Property) :
    (ps.filterMap fun p => p.parent.map fun _ => p.name).Sublist (ps.map (·.name)) := by
  induction ps with
  | nil => exact List.nil_sublist _
  | cons p ps ih =>
    cases hparent : p.parent with
    | none =>
      rw [List.filterMap_cons_none (by rw [hparent]; rfl), List.map_cons]
      exact ih.cons _
    | some parent =>
      rw [List.filterMap_cons_some (by rw [hparent]; rfl), List.map_cons]
      exact ih.cons_cons _

/-- No two relationships come from one property. -/
theorem Draft.nodup_properties_of_build {d : Draft} {e : Entity} (build : d.build = .ok e) :
    (e.relationships.map (·.property)).Nodup := by
  have hdistinct : (e.properties.map (·.name)).Nodup := by
    rw [(describes_of_build build).properties, List.map_map]
    have hnames : (fun p : Property => p.name) ∘ Property.normalised = fun p => Name.pascal p.name :=
      funext fun p => p.name_normalised
    rw [hnames]
    exact (admissible_of_build build).distinct
  have hrelated : e.relationships.map (·.property) =
      e.properties.filterMap fun p => p.parent.map fun _ => p.name := by
    have hpairs := congrArg (List.map Prod.fst) (describes_of_build build).relationships
    rw [List.map_map, List.map_filterMap] at hpairs
    simp only [Option.map_map] at hpairs
    exact hpairs
  rw [hrelated]
  exact (Property.sublist_foreign_names e.properties).nodup hdistinct

/-- **When seeded locals are declared once.** The seeds of an entity are distinct unless one parent's
name goes on as another's does before `For`. None is the entity's own fake unless the entity's name
goes on so, none its local unless the entity is named like a fake, and none its lambda parameter
unless that is. -/
theorem seed_variables_distinct {d : Draft} {e : Entity} (build : d.build = .ok e) :
    ((∀ r ∈ e.relationships, ∀ r' ∈ e.relationships, ¬Name.Extends r'.parent r.parent) →
      (e.relationships.map (·.seedVariable)).Nodup) ∧
    ∀ r ∈ e.relationships,
      (¬Name.Extends e.name r.parent → r.seedVariable ≠ Name.fakeVariable e.name) ∧
      (¬"fake".toList <+: e.variableName.toList → r.seedVariable ≠ e.localName) ∧
      (¬"fake".toList <+: e.lambda.toList → r.seedVariable ≠ e.lambda) := by
  have hproperties := Draft.nodup_properties_of_build build
  have hrelationships := Draft.relationships_of_build build
  have hmem : ∀ r ∈ e.relationships, ∃ p ∈ e.properties, p.parent = some r.parent ∧
      p.name = r.property ∧ p.name ≠ "" ∧
      r.seedVariable = Draft.seedVariable e.name e.properties p.name r.parent := by
    intro r hr
    rw [hrelationships] at hr
    obtain ⟨p, hp, parent, hparent, rfl⟩ := Draft.mem_relationships_iff.mp hr
    have hname := Name.ne_empty_of_isIdentifier (Draft.properties_of_build build hp).1
    exact ⟨p, hp, hparent, rfl, hname, rfl⟩
  constructor
  · intro apart
    refine List.Nodup.map_on ?_ hproperties.of_map
    intro r hr r' hr' heq
    obtain ⟨p, hp, hparent, hproperty, hpname, hseed⟩ := hmem r hr
    obtain ⟨q, hq, hother, hproperty', hqname, hseed'⟩ := hmem r' hr'
    rw [hseed, hseed'] at heq
    rcases Draft.extends_of_seedVariable_eq hp hq hparent hother hpname hqname heq with
      hsame | hextends | hextends
    · rw [hproperty, hproperty'] at hsame
      exact List.inj_on_of_nodup_map hproperties hr hr' hsame
    · exact absurd hextends (apart r hr r' hr')
    · exact absurd hextends (apart r' hr' r hr)
  · intro r hr
    obtain ⟨p, hp, hparent, -, hpname, hseed⟩ := hmem r hr
    have hfake := Draft.fake_prefix_seedVariable e.name e.properties p.name r.parent
    rw [hseed]
    refine ⟨?_, ?_, ?_⟩
    · intro apart heq
      exact apart (Draft.extends_of_seedVariable_eq_fakeVariable hpname heq)
    · intro apart heq
      rw [heq] at hfake
      exact apart (Name.fake_prefix_of_localVariable hfake)
    · intro apart heq
      rw [heq] at hfake
      exact apart hfake

/-- Two accounts, a user and the transfer before it are seeded in four locals. -/
theorem transfer_seeds_distinct :
    ∃ e, Draft.transfer.build = .ok e ∧ e.relationships.map (·.seedVariable) =
        ["fakeAccountForSourceId", "fakeAccountForTargetId", "fakeUserOne",
         "fakeTransferForPreviousId"] ∧
      (e.relationships.map (·.seedVariable)).Nodup ∧
      ∀ r ∈ e.relationships, r.seedVariable ≠ Name.fakeVariable e.name ∧
        r.seedVariable ≠ e.localName ∧ r.seedVariable ≠ e.lambda := by
  have heval : Draft.transfer.build.map (fun e => (e.name, e.lambda, e.relationships.map (·.parent),
        e.relationships.map (·.seedVariable))) =
      .ok ("Transfer", "t", ["Account", "Account", "User", "Transfer"],
        ["fakeAccountForSourceId", "fakeAccountForTargetId", "fakeUserOne",
         "fakeTransferForPreviousId"]) := by decide +kernel
  obtain ⟨e, build, hfields⟩ := map_eq_ok_iff.mp heval
  simp only [Prod.mk.injEq] at hfields
  obtain ⟨hname, hlambda, hparents, hseeds⟩ := hfields
  have hparent : ∀ r ∈ e.relationships, r.parent ∈ ["Account", "Account", "User", "Transfer"] := by
    intro r hr
    rw [← hparents]
    exact List.mem_map_of_mem hr
  have hall : ∀ parent ∈ ["Account", "Account", "User", "Transfer"],
      ∀ name ∈ ["Account", "Account", "User", "Transfer"], ¬Name.Extends name parent := by
    decide +kernel
  obtain ⟨hnodup, hapart⟩ := seed_variables_distinct build
  refine ⟨e, build, hseeds, hnodup fun r hr r' hr' => hall _ (hparent r hr) _ (hparent r' hr'), ?_⟩
  intro r hr
  obtain ⟨hown, hlocal, hparameter⟩ := hapart r hr
  refine ⟨hown ?_, hlocal ?_, hparameter ?_⟩
  · rw [hname]
    exact hall _ (hparent r hr) "Transfer" (by decide)
  · unfold Entity.variableName
    rw [hname]
    decide +kernel
  · rw [hlambda]
    decide +kernel

/-- Otherwise seeds do clash: with each other, where `Order` with `LineForSenderId` and
`OrderForLine` with `SenderId` read the same; with the entity's own fake, likewise; with the local of
an entity that is named like a fake; and with a lambda parameter that is. -/
theorem seed_variables_clash :
    (∃ e, (Draft.child "Invoice" none [("LineForSenderId", "Order"), ("ReceiverId", "Order"),
        ("SenderId", "OrderForLine"), ("PayerId", "OrderForLine")]).build = .ok e ∧
      ¬(e.relationships.map (·.seedVariable)).Nodup) ∧
    (∃ e, (Draft.child "OrderForLine" none [("LineOne", "Order"), ("OtherId", "Order")]).build =
        .ok e ∧ Name.fakeVariable e.name ∈ e.relationships.map (·.seedVariable)) ∧
    (∃ e, (Draft.child "FakeOrderOne" none [("OrderId", "Order")]).build = .ok e ∧
      e.localName ∈ e.relationships.map (·.seedVariable)) ∧
    ∃ e, (Draft.child "Invoice" (some "fakeOrderOne") [("OrderId", "Order")]).build = .ok e ∧
      e.lambda ∈ e.relationships.map (·.seedVariable) := by
  refine ⟨?_, ?_, ?_, ?_⟩
  · exact exists_of_map_decide (by decide +kernel)
  · exact exists_of_map_decide (by decide +kernel)
  · exact exists_of_map_decide (by decide +kernel)
  · exact exists_of_map_decide (by decide +kernel)

end Scaffold
