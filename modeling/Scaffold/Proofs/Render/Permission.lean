/-
  Scaffold/Proofs/Render/Permission.lean
  ======================================
  **The permission is written as it was given.**

  The delete feature writes a permission into the check of its guard, the tests write it into the
  call that withholds it. Neither text has that call a second time, and around it nothing depends on
  the permission (`Layout.Surrounds`). Of what a manifest gives only the blanks at the ends are
  dropped, and a name is made up for a blank text. All else is written without a look at it, while
  every other name of the entry must be an identifier for its entity to be built. So what is written
  is an identifier exactly if what was given is one.
-/
import Scaffold.Proofs.Manifest.Entries
import Scaffold.Proofs.Render.Delimited
import Scaffold.Proofs.Render.Protection

namespace Scaffold

open Text (endLines)
open Source (indent)

/-- The call that a permission is written into, up to the permission. -/
def ArtifactKind.permissionCall? : ArtifactKind → Option String
  | .deleteFeature => some "MustHavePermission<ForbiddenAccessException>(Permissions."
  | .deleteCommandTest => some "SetUserNotPermitted(Permissions."
  | _ => none

/-- The texts before and after the one call that a permission is written into. They stay the same
when another permission is given. -/
structure Layout.Surrounds (l : Layout) (e : Entity) (flags : Flags) (kind : ArtifactKind)
    (call before after : String) : Prop where
  only_call : ¬Text.Contains before call ∧ ¬Text.Contains after call
  content : ∀ (given : Option String) (permission : String),
    { flags with permission := given }.Demands e.plural permission →
      l.content e { flags with permission := given } kind =
        .ok (before ++ (call ++ permission ++ ");") ++ after)

variable {kind : ArtifactKind} {call s : String} {es : List Step}

/-- A text that neither checks nor withholds a permission has no such call. -/
theorem ArtifactKind.not_contains_permissionCall (hcall : kind.permissionCall? = some call)
    (h : Text.Tells s es) (hcheck : .check ∉ es) (hwithholding : .withholding ∉ es) :
    ¬Text.Contains s call := by
  intro hcontains
  cases kind <;> cases hcall
  · have hword : Text.Contains "MustHavePermission<ForbiddenAccessException>(Permissions."
        "MustHavePermission<" := ⟨"", "ForbiddenAccessException>(Permissions.", rfl⟩
    exact h.not_contains_check hcheck (hcontains.trans hword)
  · have hword : Text.Contains "SetUserNotPermitted(Permissions." "SetUserNotPermitted(" :=
      ⟨"", "Permissions.", rfl⟩
    exact h.not_contains_withholding hwithholding (hcontains.trans hword)

/-! ### The feature -/

namespace Handler

variable {l : Layout} {e : Entity} (he : e.IsNamed) {flags : Flags} {text : String}

include he

/-- The members of a protected feature around the check. -/
theorem exists_surrounding : ∃ before after, Text.Tells before [] ∧ Text.Tells after [] ∧
    ∀ permission, endLines (indent (lines e (some permission))) =
      before ++ (check permission ++ after) := by
  -- what is written for the dependencies depends on there being a permission, not on which
  let deps := dependencies e (some "")
  let outer := [commandLine e, "",
    "public sealed class Handler : IRequestHandler<" ++ Name.command ++ ">", "\x7b"]
  let inner := deps.map Dependency.field ++ ([""] ++ (Source.block
    ["public Handler(" ++ Text.joinWith ", " (deps.map Dependency.parameter) ++ ")"]
    (deps.map Dependency.assignment) ++ ["", methodLine, "\x7b"]))
  have hopen : Text.Tells "\x7b" [] := .literal _ (by decide)
  have hclose : Source.Tells ["\x7d"] [] := .singleton (.literal _ (by decide))
  have houter : Source.Tells outer [] := .cons_silent (tells_commandLine he)
    (.cons_silent .empty (.cons_silent tells_classLine (.singleton hopen)))
  have hinner : Source.Tells inner [] := by
    have hmethod : Source.Tells ["", methodLine, "\x7b"] [] :=
      .cons_silent .empty (.cons_silent tells_methodLine (.singleton hopen))
    exact (tells_fields he (some "")).append
      ((Source.Tells.singleton .empty).append ((tells_constructor he (some "")).append hmethod))
  have hlines : ∀ permission, lines e (some permission) = outer ++ (indent (inner ++
      (indent (guardLines (some permission) ++ handleLines e none) ++ ["\x7d"])) ++ ["\x7d"]) := by
    intro permission
    simp only [outer, inner, deps, List.append_assoc]
    rfl
  refine ⟨endLines (indent outer) ++ endLines (indent (indent inner)) ++ "            ",
    "\n\n" ++ endLines (indent (indent (indent (handleLines e none) ++ ["\x7d"]) ++ ["\x7d"])),
    ?_, ?_, ?_⟩
  · exact (houter.indent.endLines.append hinner.indent.indent.endLines).append
      (.literal _ (by decide))
  · have hrest := (((tells_handleLines he).indent.append hclose).indent.append hclose).indent
    exact (Text.Tells.literal _ (by decide)).append hrest.endLines
  · intro permission
    rw [hlines]
    simp only [Source.indent_append, Text.endLines_append, endLines_check, String.append_assoc]

/-- The file is its members behind a text without a step. -/
theorem exists_front (h : l.content e flags .deleteFeature = .ok text) :
    ∃ front, Text.Tells front [] ∧ text = front ++
      (endLines (indent (lines e (flags.effectivePermission "Delete" e.plural))) ++ "\x7d\n") := by
  obtain ⟨p, hp⟩ := Layout.exists_artifact_of_content h
  obtain ⟨f, rfl, hfits, hbody⟩ := Layout.file_of_deleteFeature he hp h
  have hmembers := members_lines_ne_empty e (flags.effectivePermission "Delete" e.plural)
  have hsame : f.withBody (Source.members
      (lines e (flags.effectivePermission "Delete" e.plural))) = f := by
    rw [← hbody]
    rfl
  have hclose : "\n\x7d\n" = "\n" ++ "\x7d\n" := rfl
  refine ⟨f.front ++ "\x7b\n", (Layout.tells_front he hp hfits).append (.literal _ (by decide)), ?_⟩
  rw [Source.endLines_indent hmembers, ← hsame, f.render_withBody hmembers, hclose]
  simp only [SourceFile.front, SourceFile.withBody, String.append_assoc]

theorem exists_surrounds (h : l.content e flags .deleteFeature = .ok text)
    (hprotected : flags.isProtected = true) {call : String}
    (hcall : ArtifactKind.deleteFeature.permissionCall? = some call) :
    ∃ before after, l.Surrounds e flags .deleteFeature call before after := by
  obtain ⟨start, between, hparts⟩ := exists_parts h
  obtain ⟨before, after, hbefore, hafter, hmembers⟩ := exists_surrounding he
  obtain ⟨written, hwritten⟩ := flags.exists_demands e.plural
  have hcontent : ∀ (others : Flags) (permission : String), others.isProtected = true →
      others.Demands e.plural permission → l.content e others .deleteFeature =
        .ok (start ++ ("using HeimGuard;\n" ++ between) ++
          (before ++ (check permission ++ after) ++ "\x7d\n")) := by
    intro others permission hothers hdemands
    rw [hparts others, hdemands.effectivePermission_eq hothers, text_of, hmembers]
    simp only [Option.isSome_some, if_true, String.append_assoc]
  -- the file with the permission of these flags shows what stands in front of the members
  have hfront : Text.Tells (start ++ ("using HeimGuard;\n" ++ between)) [] := by
    obtain ⟨front, hfront, htext⟩ := exists_front he h
    rw [hwritten.effectivePermission_eq hprotected, hmembers] at htext
    have hsame := Except.ok.inj (h.symm.trans (hcontent flags written hprotected hwritten))
    rw [htext, String.append_left_inj] at hsame
    rwa [← hsame]
  refine ⟨start ++ ("using HeimGuard;\n" ++ between) ++ (before ++ "await _heimGuard."),
    after ++ "\x7d\n", ⟨?_, ?_⟩, ?_⟩
  · exact ArtifactKind.not_contains_permissionCall hcall
      (hfront.append (hbefore.append (.literal _ (by decide)))) List.not_mem_nil List.not_mem_nil
  · exact ArtifactKind.not_contains_permissionCall hcall
      (hafter.append (.literal _ (by decide))) List.not_mem_nil List.not_mem_nil
  · intro given permission hdemands
    obtain rfl : "MustHavePermission<ForbiddenAccessException>(Permissions." = call :=
      Option.some.inj hcall
    have hcheck : check permission = "await _heimGuard." ++
        ("MustHavePermission<ForbiddenAccessException>(Permissions." ++ permission ++ ");") := rfl
    rw [hcontent { flags with permission := given } permission hprotected hdemands, hcheck]
    simp only [String.append_assoc]

end Handler

/-! ### The tests -/

namespace DeleteSuite

variable {l : Layout} {e : Entity} (he : e.IsNamed) {flags : Flags} {text : String}

include he

theorem exists_surrounds (h : l.content e flags .deleteCommandTest = .ok text)
    (hprotected : flags.isProtected = true) {call : String}
    (hcall : ArtifactKind.deleteCommandTest.permissionCall? = some call) :
    ∃ before after, l.Surrounds e flags .deleteCommandTest call before after := by
  obtain ⟨file, hfile⟩ := exists_file_of_render h
  obtain ⟨head, hhead, hmembers⟩ := members_permissionTest e
  obtain ⟨written, hwritten⟩ := flags.exists_demands e.plural
  have hfront : Text.Tells (file.front ++ "\x7b\n") [] := by
    obtain ⟨front, hfront, htext⟩ := exists_front he h
    have hsame := Except.ok.inj (h.symm.trans (hfile flags))
    rw [htext, assemble_fragments, String.append_assoc, String.append_left_inj] at hsame
    rwa [← hsame]
  let opened := Text.joinWith "\n\n" ((openTests e flags).map Source.members)
  have hcontent : ∀ (given : Option String) (permission : String),
      { flags with permission := given }.Demands e.plural permission →
      l.content e { flags with permission := given } .deleteCommandTest =
        .ok (file.front ++ "\x7b\n" ++ (opened ++ "\n\n" ++ Source.members
          (permissionTest e permission)) ++ "\n\x7d\n") := by
    intro given permission hdemands
    -- the tests in front of the last one do not depend on the permission
    have hopened : openTests e { flags with permission := given } = openTests e flags := rfl
    have hpermission := hdemands.effectivePermission_eq hprotected
    have hrender := hfile { flags with permission := given }
    rw [assemble_fragments, joinWith_tests hpermission, hopened] at hrender
    exact hrender
  refine ⟨file.front ++ "\x7b\n" ++ (opened ++ ("\n\n" ++ head)), expectRefusal e ++
    ("ThrowAsync<ForbiddenAccessException>();" ++ "\n    \x7d" ++ "\n\x7d\n"), ⟨?_, ?_⟩, ?_⟩
  · have hbefore := hfront.append ((tells_openTests he flags).append
      (.cons_literal ['\n', '\n'] (by decide) hhead))
    rw [List.nil_append, List.append_nil] at hbefore
    obtain ⟨hcheck, hwithholding⟩ := not_mem_openSteps e flags.softDelete
    exact ArtifactKind.not_contains_permissionCall hcall hbefore hcheck hwithholding
  · have hend : Text.Tells
        ("ThrowAsync<ForbiddenAccessException>();" ++ "\n    \x7d" ++ "\n\x7d\n") [] :=
      .append (.literals _ _ (by decide)) (.literal _ (by decide))
    exact ArtifactKind.not_contains_permissionCall hcall ((tells_expectRefusal he).append hend)
      List.not_mem_nil List.not_mem_nil
  · intro given permission hdemands
    obtain rfl : "SetUserNotPermitted(Permissions." = call := Option.some.inj hcall
    rw [hcontent given permission hdemands, hmembers]
    simp only [String.append_assoc]

end DeleteSuite

/-! ### Whole entries -/

theorem Layout.exists_surrounds {l : Layout} {e : Entity} (he : e.IsNamed) {flags : Flags}
    (hcall : kind.permissionCall? = some call) {text : String}
    (h : l.content e flags kind = .ok text) (hprotected : flags.isProtected = true) :
    ∃ before after, l.Surrounds e flags kind call before after := by
  cases kind with
  | deleteFeature => exact Handler.exists_surrounds he h hprotected hcall
  | deleteCommandTest => exact DeleteSuite.exists_surrounds he h hprotected hcall
  | _ => cases hcall

/-- **The permission of a manifest is written without a look at it.** An entry that is read, and
whose entity builds, has its permission in one place of the feature and in one of the tests, or in
none when it is not protected. What stands there is an identifier exactly if the entry gives no
permission but a blank one or an identifier between blanks. -/
theorem permission_usable_iff_given_so (l : Layout) (batch : List Definition) {entry : EntityEntry}
    {d : Definition} {own : Entity} (read : entry.Describes d) (build : d.draft.build = .ok own)
    {kind : ArtifactKind} {call : String} (hcall : kind.permissionCall? = some call) {text : String}
    (rendered : l.content (own.withParentKeys (Definition.keyOf? batch)) d.flags kind = .ok text) :
    (entry.isProtected = false → ¬Text.Contains text call) ∧
    (entry.isProtected = true → ∃ before after member,
      l.Surrounds (own.withParentKeys (Definition.keyOf? batch)) d.flags kind call before after ∧
      text = before ++ (call ++ member ++ ");") ++ after ∧ d.flags.Demands own.plural member ∧
      (Name.isIdentifier member = true ↔ ∀ given, entry.permission = some given →
        Text.isBlank given = true ∨ Name.isIdentifier (Text.trim given) = true)) := by
  have he := (Definition.built_of_build build batch).isNamed
  have hprotected : d.flags.isProtected = entry.isProtected := by rw [read.flags]
  have hpermission : d.flags.permission = entry.permission := by rw [read.flags]
  constructor
  · intro hopen
    rw [← hprotected] at hopen
    cases kind with
    | deleteFeature =>
      exact ArtifactKind.not_contains_permissionCall hcall
        (Layout.tells_openFeature he rendered hopen) List.not_mem_nil List.not_mem_nil
    | deleteCommandTest =>
      obtain ⟨hcheck, hwithholding⟩ := DeleteSuite.not_mem_openSteps
        (own.withParentKeys (Definition.keyOf? batch)) d.flags.softDelete
      exact ArtifactKind.not_contains_permissionCall hcall
        (DeleteSuite.tells_text_of_open he rendered hopen) hcheck hwithholding
    | _ => cases hcall
  · intro hguarded
    rw [← hprotected] at hguarded
    obtain ⟨before, after, hsurrounds⟩ := Layout.exists_surrounds he hcall rendered hguarded
    obtain ⟨member, hdemands⟩ := d.flags.exists_demands own.plural
    refine ⟨before, after, member, hsurrounds, ?_, hdemands, ?_⟩
    · exact Except.ok.inj (rendered.symm.trans (hsurrounds.content d.flags.permission member hdemands))
    · rw [hdemands.isIdentifier_iff (Draft.isNamed_of_build build).plural, hpermission]

/-- An order with a permission, as a manifest has it. -/
def EntityEntry.guardedOrder (permission : String) : EntityEntry where
  name := "Order"
  isProtected := true
  permission := some permission
  properties := [{ name := "Id", type := "guid", isKey := true }]

/-- A permission that is a name between blanks stands in the feature without them. -/
theorem order_permission_usable :
    let entry := EntityEntry.guardedOrder " CanArchive "
    let l := Layout.conventional "/sln" "Shop"
    ∃ (d : Definition) (own : Entity) (text before after : String), entry.Describes d ∧
      d.draft.build = .ok own ∧
      l.content (own.withParentKeys (Definition.keyOf? [d])) d.flags .deleteFeature = .ok text ∧
      text = before ++ ("MustHavePermission<ForbiddenAccessException>(Permissions." ++
        "CanArchive" ++ ");") ++ after ∧ Name.isIdentifier "CanArchive" = true := by
  intro entry l
  obtain ⟨text, htext⟩ : ∃ text, (do
      let d ← entry.definition
      let own ← d.draft.build
      l.content (own.withParentKeys (Definition.keyOf? [d])) d.flags .deleteFeature) = .ok text :=
    isSome_toOption_iff.mp (by decide +kernel)
  obtain ⟨d, hdefinition, htext⟩ := bind_eq_ok_iff.mp htext
  obtain ⟨own, build, rendered⟩ := bind_eq_ok_iff.mp htext
  have read : entry.Describes d := EntityEntry.definition_eq_ok_iff.mp hdefinition
  obtain ⟨-, hguarded⟩ := permission_usable_iff_given_so l [d] read build rfl rendered
  obtain ⟨before, after, member, -, htext, hdemands, husable⟩ := hguarded rfl
  have hpermission : d.flags.permission = some " CanArchive " := by
    rw [read.flags]
    rfl
  have hmember : member = "CanArchive" := by
    have hother : d.flags.Demands own.plural (Text.trim " CanArchive ") :=
      .given hpermission (by decide +kernel)
    rw [hdemands.unique hother]
    decide +kernel
  subst hmember
  refine ⟨d, own, text, before, after, read, build, rendered, htext, husable.mpr ?_⟩
  rintro given ⟨⟩
  decide +kernel

/-- A permission of three words is written into the feature and into the tests as it is. -/
theorem words_written_as_permission :
    let entry := EntityEntry.guardedOrder "can delete orders"
    let l := Layout.conventional "/sln" "Shop"
    Name.isIdentifier "can delete orders" = false ∧
    ∃ (d : Definition) (own : Entity), entry.definition = .ok d ∧ d.draft.build = .ok own ∧
      ∀ kind call, kind.permissionCall? = some call → ∃ text before after,
        l.content (own.withParentKeys (Definition.keyOf? [d])) d.flags kind = .ok text ∧
        text = before ++ (call ++ "can delete orders" ++ ");") ++ after ∧
        ¬Text.Contains before call ∧ ¬Text.Contains after call := by
  intro entry l
  obtain ⟨texts, htexts⟩ : ∃ texts, (do
      let d ← entry.definition
      let own ← d.draft.build
      let e := own.withParentKeys (Definition.keyOf? [d])
      let feature ← l.content e d.flags .deleteFeature
      let suite ← l.content e d.flags .deleteCommandTest
      pure (feature, suite)) = .ok texts := isSome_toOption_iff.mp (by decide +kernel)
  obtain ⟨d, hdefinition, htexts⟩ := bind_eq_ok_iff.mp htexts
  obtain ⟨own, build, htexts⟩ := bind_eq_ok_iff.mp htexts
  obtain ⟨feature, hfeature, htexts⟩ := bind_eq_ok_iff.mp htexts
  obtain ⟨suite, hsuite, -⟩ := bind_eq_ok_iff.mp htexts
  have hflags : d.flags = { isProtected := true, permission := some "can delete orders" } :=
    (EntityEntry.definition_eq_ok_iff.mp hdefinition).flags
  have hprotected : d.flags.isProtected = true := by rw [hflags]
  have he := (Definition.built_of_build build [d]).isNamed
  have hdemands : d.flags.Demands own.plural (Text.trim "can delete orders") :=
    .given (by rw [hflags]) (by decide +kernel)
  rw [show Text.trim "can delete orders" = "can delete orders" by decide +kernel] at hdemands
  refine ⟨by decide, d, own, hdefinition, build, ?_⟩
  intro kind call hcall
  obtain ⟨text, rendered⟩ : ∃ text,
      l.content (own.withParentKeys (Definition.keyOf? [d])) d.flags kind = .ok text := by
    cases kind with
    | deleteFeature => exact ⟨feature, hfeature⟩
    | deleteCommandTest => exact ⟨suite, hsuite⟩
    | _ => cases hcall
  obtain ⟨before, after, hsurrounds⟩ := Layout.exists_surrounds he hcall rendered hprotected
  exact ⟨_, before, after, hsurrounds.content d.flags.permission _ hdemands, rfl,
    hsurrounds.only_call⟩

end Scaffold
