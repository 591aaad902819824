/-
  Scaffold/Proofs/Render/Protection.lean
  ======================================
  **The delete feature and its tests agree on the permission.**

  The feature and the tests are rendered apart, each from the entity and the flags. Both take the
  permission that the flags demand (`Flags.Demands`): the feature checks it before it uses the
  repository, the tests withhold it from a user and expect the refusal. Without protection neither
  names a permission, and the feature is the protected one without its guard.
-/
import Scaffold.Proofs.Entity.Built
import Scaffold.Proofs.Render.Guard
import Scaffold.Proofs.Render.Steps

namespace Scaffold

/-! ### The permission -/

namespace Flags

/-- The permission that a protected feature demands to delete one of `plural`. -/
inductive Demands (flags : Flags) (plural : String) : String → Prop
  /-- It is given by name, with or without blanks around it. -/
  | given {name : String} (explicit : flags.permission = some name)
      (named : Text.isBlank name = false) : Demands flags plural (Text.trim name)
  /-- It is not given, or blank. -/
  | derived (blank : ∀ name, flags.permission = some name → Text.isBlank name = true) :
      Demands flags plural ("CanDelete" ++ plural)

variable {flags : Flags} {plural permission : String}

theorem exists_demands (flags : Flags) (plural : String) : ∃ permission,
    flags.Demands plural permission := by
  cases hgiven : flags.permission with
  | none => exact ⟨_, .derived fun name hname => by rw [hgiven] at hname; cases hname⟩
  | some name =>
    cases hblank : Text.isBlank name with
    | false => exact ⟨_, .given hgiven hblank⟩
    | true =>
      refine ⟨_, .derived fun other hother => ?_⟩
      rw [hgiven] at hother
      cases hother
      exact hblank

theorem Demands.effectivePermission_eq (h : flags.Demands plural permission)
    (hprotected : flags.isProtected = true) :
    flags.effectivePermission "Delete" plural = some permission := by
  unfold effectivePermission
  rw [if_pos hprotected]
  cases h with
  | @given name explicit named =>
    simp [explicit, Text.nonBlank?, named]
  | derived blank =>
    have hnone : flags.permission.bind Text.nonBlank? = none := by
      rw [Option.bind_eq_none_iff]
      intro name hname
      simp [Text.nonBlank?, blank name hname]
    have haction : "CanDelete" = "Can" ++ "Delete" := rfl
    rw [hnone, Option.getD_none, haction]

theorem Demands.unique {other : String} (h : flags.Demands plural permission)
    (h' : flags.Demands plural other) : permission = other := by
  cases h with
  | given explicit named =>
    cases h' with
    | given explicit' _ =>
      rw [explicit] at explicit'
      cases explicit'
      rfl
    | derived blank =>
      rw [blank _ explicit] at named
      cases named
  | derived blank =>
    cases h' with
    | given explicit named =>
      rw [blank _ explicit] at named
      cases named
    | derived _ => rfl

theorem effectivePermission_eq_none (hopen : flags.isProtected = false) :
    flags.effectivePermission "Delete" plural = none := by
  simp [effectivePermission, hopen]

end Flags

/-! ### The tests -/

namespace Seeds

/-- Seeding neither checks nor withholds a permission. -/
theorem not_mem_steps (e : Entity) : .check ∉ steps e ∧ .withholding ∉ steps e := by
  simp [steps]

end Seeds

namespace DeleteSuite

variable {l : Layout} {e : Entity} (he : e.IsNamed) {flags : Flags} {text permission : String}

/-- The test for the permission is the last of a protected class. -/
theorem joinWith_tests
    (hpermission : flags.effectivePermission "Delete" e.plural = some permission) :
    Text.joinWith "\n\n" ((happyPath e :: laterTests e flags).map Source.members) =
      Text.joinWith "\n\n" ((openTests e flags).map Source.members) ++ "\n\n" ++
        Source.members (permissionTest e permission) := by
  have hopen : (openTests e flags).map Source.members ≠ [] := List.cons_ne_nil _ _
  rw [tests_eq, hpermission, Option.map_some, Option.toList_some, List.map_append]
  exact Text.joinWith_append "\n\n" hopen (List.cons_ne_nil _ _)

/-- The tests up to the one for the permission neither check nor withhold one. -/
theorem not_mem_openSteps (e : Entity) (softDelete : Bool) :
    .check ∉ Seeds.steps e ++ (if softDelete then Seeds.steps e else []) ∧
      .withholding ∉ Seeds.steps e ++ if softDelete then Seeds.steps e else [] := by
  have hseeds := Seeds.not_mem_steps e
  cases softDelete <;> simp [hseeds]

include he

theorem tells_text_of_open (h : l.content e flags .deleteCommandTest = .ok text)
    (hopen : flags.isProtected = false) :
    Text.Tells text (Seeds.steps e ++ if flags.softDelete then Seeds.steps e else []) := by
  obtain ⟨front, hfront, rfl⟩ := exists_front he h
  rw [tests_eq, Flags.effectivePermission_eq_none hopen]
  have hall := hfront.append ((tells_openTests he flags).append
    (.literal ['\n', '\x7d', '\n'] (by decide)))
  rw [List.append_nil] at hall
  simpa using hall

/-- The protected class withholds the permission once, and then expects the refusal. -/
theorem exists_withholding (h : l.content e flags .deleteCommandTest = .ok text)
    (hpermission : flags.effectivePermission "Delete" e.plural = some permission) :
    ∃ before after, text = before ++ ("SetUserNotPermitted(Permissions." ++ permission ++ ");") ++
        expectRefusal e ++ "ThrowAsync<ForbiddenAccessException>();" ++ after ∧
      ∀ part ∈ [before, expectRefusal e, after], ¬Text.Contains part "SetUserNotPermitted(" := by
  obtain ⟨front, hfront, rfl⟩ := exists_front he h
  obtain ⟨head, hhead, hmembers⟩ := members_permissionTest e
  refine ⟨front ++ (Text.joinWith "\n\n" ((openTests e flags).map Source.members) ++
    ("\n\n" ++ head)), "\n    \x7d" ++ "\n\x7d\n", ?_, ?_⟩
  · rw [joinWith_tests hpermission, hmembers]
    simp only [String.append_assoc]
  · have hbefore := hfront.append ((tells_openTests he flags).append
      (.cons_literal ['\n', '\n'] (by decide) hhead))
    rw [List.nil_append, List.append_nil] at hbefore
    simp only [List.forall_mem_cons]
    refine ⟨?_, ?_, ?_, List.forall_mem_nil _⟩
    · exact hbefore.not_contains_withholding (not_mem_openSteps e _).2
    · exact (tells_expectRefusal he).not_contains_withholding List.not_mem_nil
    · exact (Text.Tells.literals _ _ (by decide)).not_contains_withholding List.not_mem_nil

end DeleteSuite

/-! ### Agreement -/

/-- **The delete feature and its tests agree on the permission.** When the feature is protected, the
permission that the flags demand is checked before the handler uses its repository, and the tests
withhold it, and no other, and expect the refusal. When it is not, neither text names one. The open
feature is the protected one without the import, the field, the parameter, the assignment and the
check of the guard. -/
theorem feature_and_tests_agree_on_permission (l : Layout) {e : Entity} (built : e.Built)
    (flags : Flags) {feature suite : String}
    (rendered : l.content e flags .deleteFeature = .ok feature)
    (tested : l.content e flags .deleteCommandTest = .ok suite) :
    (flags.isProtected = true → ∃ permission, flags.Demands e.plural permission ∧
      (∃ start opening rest, feature = start ++ "public sealed class Handler" ++ opening ++
          ("await _heimGuard.MustHavePermission<ForbiddenAccessException>(Permissions." ++
            permission ++ ");") ++ rest ∧
        ¬Text.Contains opening ("_" ++ Handler.repositoryName e ++ ".") ∧
        Text.Contains rest ("_" ++ Handler.repositoryName e ++ ".")) ∧
      ∃ before after, suite = before ++
          ("SetUserNotPermitted(Permissions." ++ permission ++ ");") ++
          DeleteSuite.expectRefusal e ++ "ThrowAsync<ForbiddenAccessException>();" ++ after ∧
        ∀ part ∈ [before, DeleteSuite.expectRefusal e, after],
          ¬Text.Contains part "SetUserNotPermitted(") ∧
    (flags.isProtected = false → ∀ text ∈ [feature, suite],
      ¬Text.Contains text "MustHavePermission<" ∧ ¬Text.Contains text "SetUserNotPermitted(") ∧
    ∃ parts : Handler.Parts, ∀ others : Flags,
      (others.isProtected = false → l.content e others .deleteFeature = .ok (parts.text none)) ∧
      ∀ permission, others.isProtected = true → others.Demands e.plural permission →
        l.content e others .deleteFeature = .ok (parts.text (some permission)) := by
  have he : e.IsNamed := built.isNamed
  obtain ⟨before, between, hparts⟩ := Handler.exists_parts rendered
  refine ⟨?_, ?_, Handler.Parts.of e before between, ?_⟩
  · intro hprotected
    obtain ⟨permission, hdemands⟩ := flags.exists_demands e.plural
    have hpermission := hdemands.effectivePermission_eq hprotected
    refine ⟨permission, hdemands, ?_, DeleteSuite.exists_withholding he tested hpermission⟩
    have hfeature := rendered.symm.trans (hparts flags)
    rw [hpermission] at hfeature
    obtain ⟨start, opening, rest, htext, hdotless, huse⟩ :=
      Handler.check_first he before between permission
    refine ⟨start, opening, rest, (Except.ok.inj hfeature).trans htext, ?_, huse⟩
    rintro ⟨front, back, rfl⟩
    exact hdotless '.' (by simp [Name.toList_dot]) rfl
  · intro hopen
    have hsuite := DeleteSuite.tells_text_of_open he tested hopen
    have hfeature := Layout.tells_openFeature he rendered hopen
    have hsteps := DeleteSuite.not_mem_openSteps e flags.softDelete
    simp only [List.forall_mem_cons]
    refine ⟨⟨?_, ?_⟩, ⟨?_, ?_⟩, List.forall_mem_nil _⟩
    · exact hfeature.not_contains_check List.not_mem_nil
    · exact hfeature.not_contains_withholding List.not_mem_nil
    · exact hsuite.not_contains_check hsteps.1
    · exact hsuite.not_contains_withholding hsteps.2
  · intro others
    constructor
    · intro hopen
      rw [hparts others, Flags.effectivePermission_eq_none hopen]
    · intro permission hprotected hdemands
      rw [hparts others, hdemands.effectivePermission_eq hprotected]

/-- The feature and the tests of an order name the given permission without its blanks. -/
theorem order_permission_trimmed :
    let flags : Flags := { isProtected := true, permission := some " CanRemoveOrders " }
    ∃ (e : Entity) (feature suite : String), (Draft.bare "Order" "Orders").build = .ok e ∧
      (Layout.conventional "/sln" "Shop").content e flags .deleteFeature = .ok feature ∧
      (Layout.conventional "/sln" "Shop").content e flags .deleteCommandTest = .ok suite ∧
      Text.Contains feature "(Permissions.CanRemoveOrders);" ∧
      Text.Contains suite "(Permissions.CanRemoveOrders);" := by
  intro flags
  obtain ⟨texts, htexts⟩ : ∃ texts, (do
      let e ← (Draft.bare "Order" "Orders").build
      let feature ← (Layout.conventional "/sln" "Shop").content e flags .deleteFeature
      let suite ← (Layout.conventional "/sln" "Shop").content e flags .deleteCommandTest
      pure (feature, suite)) = .ok texts := isSome_toOption_iff.mp (by decide +kernel)
  obtain ⟨e, build, htexts⟩ := bind_eq_ok_iff.mp htexts
  obtain ⟨feature, rendered, htexts⟩ := bind_eq_ok_iff.mp htexts
  obtain ⟨suite, tested, -⟩ := bind_eq_ok_iff.mp htexts
  obtain ⟨hprotected, -⟩ :=
    feature_and_tests_agree_on_permission _ (.draft build) flags rendered tested
  obtain ⟨permission, hdemands, ⟨start, opening, rest, hfeature, -⟩, before, after, hsuite, -⟩ :=
    hprotected rfl
  have hname : permission = "CanRemoveOrders" := by
    cases hdemands with
    | given explicit named =>
      cases explicit
      decide +kernel
    | derived blank => exact absurd (blank _ rfl) (by decide +kernel)
  subst hname
  have hcall : "(Permissions.CanRemoveOrders);" =
      "(Permissions." ++ ("CanRemoveOrders" ++ ");") := rfl
  have hcheck : "await _heimGuard.MustHavePermission<ForbiddenAccessException>(Permissions." =
      "await _heimGuard.MustHavePermission<ForbiddenAccessException>" ++ "(Permissions." := rfl
  have hwithhold : "SetUserNotPermitted(Permissions." =
      "SetUserNotPermitted" ++ "(Permissions." := rfl
  refine ⟨e, feature, suite, build, rendered, tested, ?_, ?_⟩
  · refine ⟨start ++ "public sealed class Handler" ++ opening ++
      "await _heimGuard.MustHavePermission<ForbiddenAccessException>", rest, ?_⟩
    rw [hfeature, hcheck, hcall]
    simp only [String.append_assoc]
  · refine ⟨before ++ "SetUserNotPermitted", DeleteSuite.expectRefusal e ++
      "ThrowAsync<ForbiddenAccessException>();" ++ after, ?_⟩
    rw [hsuite, hwithhold, hcall]
    simp only [String.append_assoc]

end Scaffold
