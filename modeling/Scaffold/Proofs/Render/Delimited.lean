/-
  Scaffold/Proofs/Render/Delimited.lean
  =====================================
  **Rendered files are well delimited.**

  The brackets of the members are nested around the permission, and a permission that is a name has
  none. Around the members stand the two braces of the class, so the file is nested, and it is in
  braces from the first of them to the last. No member begins at the margin, so the lines that begin
  there with `namespace` or `using` are the ones that the shell writes.
-/
import Scaffold.Proofs.Entity.Built
import Scaffold.Proofs.Render.Margin
import Scaffold.Proofs.Render.Protection
import Scaffold.Proofs.Source.Depth

namespace Scaffold

/-! ### Lines at the margin -/

/-- Behind the keyword of a name space or of an import stands a dotted name. -/
def Source.HoldsName (line : String) : Prop :=
  ∀ word ∈ ["namespace ", "using "], ∀ rest, line = word ++ rest →
    ∃ name, rest = name ++ ";" ∧ Name.isDotted name = true

namespace Source

theorem head?_keyword {word : String} (hword : word ∈ ["namespace ", "using "]) (rest : String) :
    (word ++ rest).toList.head? = word.toList.head? := by
  rw [String.toList_append, List.head?_append]
  rcases List.mem_cons.mp hword with rfl | hword
  · rfl
  · rw [List.mem_singleton.mp hword]
    rfl

theorem holdsName_of_head {line : String}
    (h : ∀ word ∈ ["namespace ", "using "], line.toList.head? ≠ word.toList.head?) :
    HoldsName line := by
  intro word hword rest hline
  rw [hline] at h
  exact absurd (head?_keyword hword rest) (h word hword)

theorem IsInner.holdsName {line : String} (h : IsInner line) : HoldsName line := by
  refine holdsName_of_head ?_
  rcases h with rfl | ⟨rest, rfl⟩
  · decide
  · have hblank : (" " ++ rest).toList.head? = some ' ' := by
      rw [String.toList_append, List.head?_append]
      rfl
    rw [hblank]
    decide

/-- The keywords begin with different characters, so a line begins with one of them. -/
theorem holdsName_keyword {word name : String} (hword : word ∈ ["namespace ", "using "])
    (h : Name.isDotted name = true) : HoldsName (word ++ name ++ ";") := by
  have hdistinct : ∀ word ∈ ["namespace ", "using "], ∀ other ∈ ["namespace ", "using "],
      word.toList.head? = other.toList.head? → word = other := by
    decide
  intro other hother rest hline
  rw [String.append_assoc] at hline
  have hheads : word.toList.head? = other.toList.head? := by
    rw [← head?_keyword hword, hline, head?_keyword hother]
  obtain rfl := hdistinct word hword other hother hheads
  exact ⟨name, (String.append_right_inj _).mp hline.symm, h⟩

end Source

/-! ### Permissions -/

namespace Flags

variable {flags : Flags} {plural : String}

/-- The permission that is demanded is a name, unless another text is given for it. -/
theorem Demands.isIdentifier_iff {permission : String} (h : flags.Demands plural permission)
    (hplural : Name.isIdentifier plural = true) :
    Name.isIdentifier permission = true ↔ ∀ name, flags.permission = some name →
      Text.isBlank name = true ∨ Name.isIdentifier (Text.trim name) = true := by
  cases h with
  | @given name explicit named =>
    constructor
    · intro hname other hother
      rw [explicit] at hother
      cases hother
      exact .inr hname
    · intro hgiven
      refine (hgiven name explicit).resolve_left ?_
      rw [named]
      exact Bool.false_ne_true
  | derived blank =>
    exact iff_of_true (Name.isIdentifier_append_identifier (by decide) hplural)
      fun name hname => .inl (blank name hname)

theorem isIdentifier_effectivePermission (hplural : Name.isIdentifier plural = true)
    (hgiven : ∀ name, flags.permission = some name →
      Text.isBlank name = true ∨ Name.isIdentifier (Text.trim name) = true) :
    ∀ permission, flags.effectivePermission "Delete" plural = some permission →
      Name.isIdentifier permission = true := by
  intro permission hpermission
  cases hprotected : flags.isProtected with
  | false =>
    rw [effectivePermission_eq_none hprotected] at hpermission
    cases hpermission
  | true =>
    obtain ⟨demanded, hdemands⟩ := flags.exists_demands plural
    rw [hdemands.effectivePermission_eq hprotected] at hpermission
    cases hpermission
    exact (hdemands.isIdentifier_iff hplural).mpr hgiven

end Flags

/-! ### The six kinds -/

namespace Layout

variable {l : Layout} {e : Entity} (he : e.IsNamed) {flags : Flags}
  (hpermission : ∀ permission, flags.effectivePermission "Delete" e.plural = some permission →
    Name.isIdentifier permission = true)

include he hpermission

/-- No member begins at the margin. -/
theorem everyLine_members {className : String} (hclass : Text.isLine className = true)
    (kind : ArtifactKind) : Text.EveryLine Source.IsInner (members e flags className kind) := by
  have hline : ∀ permission, flags.effectivePermission "Delete" e.plural = some permission →
      Text.isLine permission = true := fun permission h =>
    Name.isLine_of_isIdentifier (hpermission permission h)
  cases kind with
  | deleteFeature => exact (Source.Hanging.of_areLines (Handler.areLines_lines he hline)).members
  | deleteCommandTest => exact DeleteSuite.everyLine_assemble he hline
  | updateEntityTest =>
    exact (Source.Hanging.of_areLines (UpdateSuite.areLines_lines he hclass)).members
  | entityFaker => exact (Source.Hanging.of_areLines (Fakes.areLines_entityLines he)).members
  | creationDtoFaker => exact (Source.Hanging.of_areLines (Fakes.areLines_dtoLines he hclass)).members
  | updateDtoFaker => exact (Source.Hanging.of_areLines (Fakes.areLines_dtoLines he hclass)).members

theorem nested_members {className : String} (hclass : Name.isIdentifier className = true)
    (kind : ArtifactKind) : Bracket.Nested (Text.brackets (members e flags className kind)) := by
  obtain ⟨permission, hgiven, hmembers⟩ :=
    nestedAround_members he flags (Name.brackets_of_isIdentifier hclass) kind
  refine hmembers.nested ?_
  rcases hgiven with rfl | hgiven
  · exact Bracket.Nested.nil
  · rw [Name.brackets_of_isIdentifier (hpermission permission hgiven)]
    exact Bracket.Nested.nil

end Layout

/-! ### Whole files -/

namespace SourceFile

variable {f : SourceFile} {kind : ArtifactKind} {entity : String} {p : ClassPath}

theorem Fits.isLine_declaration (h : f.Fits kind entity p)
    (hclass : Name.isIdentifier p.className = true) (hentity : Name.isIdentifier entity = true) :
    Text.isLine f.declaration = true := by
  have hmodifiers : Text.isLine kind.modifiers = true := by
    cases kind <;> rfl
  have hbases : Text.isLine (kind.bases entity) = true := by
    have hdto : ∀ shape : DtoShape,
        Text.isLine (" : AutoFaker<" ++ shape.className entity ++ ">") = true := by
      intro shape
      rw [Text.isLine_append, Text.isLine_append,
        shape.isLine_className (Name.isLine_of_isIdentifier hentity)]
      rfl
    have htest : Text.isLine " : TestBase" = true := rfl
    cases kind with
    | deleteFeature => rfl
    | deleteCommandTest => exact htest
    | updateEntityTest => rfl
    | entityFaker => rfl
    | creationDtoFaker => exact hdto .creation
    | updateDtoFaker => exact hdto .update
  rw [h.declaration, Text.isLine_append, Text.isLine_append, Text.isLine_append, hmodifiers, hbases,
    Name.isLine_of_isIdentifier hclass]
  rfl

theorem Fits.holdsName_declaration (h : f.Fits kind entity p) : Source.HoldsName f.declaration := by
  have hmodifiers : kind.modifiers.toList.head? = some 'p' := by
    cases kind <;> rfl
  have hpublic : f.declaration.toList.head? = some 'p' := by
    rw [h.declaration, String.append_assoc, String.append_assoc, String.toList_append,
      List.head?_append, hmodifiers]
    rfl
  refine Source.holdsName_of_head ?_
  rw [hpublic]
  decide

/-- The shell names its own space and imports dotted names; no other line names one. -/
theorem Fits.everyLine_holdsName (h : f.Fits kind entity p)
    (hspace : Name.isDotted p.nameSpace = true) (hclass : Name.isIdentifier p.className = true)
    (hentity : Name.isIdentifier entity = true) (hbody : Text.EveryLine Source.IsInner f.body) :
    Text.EveryLine Source.HoldsName f.render := by
  have hplain : ∀ line ∈ ["", "\x7b", "\x7d"], ∀ word ∈ ["namespace ", "using "],
      line.toList.head? ≠ word.toList.head? := by
    decide
  have hshell : ∀ line ∈ ["", "\x7b", "\x7d"], Source.HoldsName line := fun line hline =>
    Source.holdsName_of_head (hplain line hline)
  refine f.everyLine_render ?_ ?_ ?_ ?_ (hshell _ (by simp)) (hshell _ (by simp))
    (hshell _ (by simp))
  · rw [h.name_space]
    refine .of_isLine ?_ (Source.holdsName_keyword (by simp) hspace)
    simp only [Text.isLine_append, Name.isLine_of_isDotted hspace]
    rfl
  · intro name hname
    refine .of_isLine ?_ (Source.holdsName_keyword (by simp) (h.imports name hname))
    simp only [Text.isLine_append, Name.isLine_of_isDotted (h.imports name hname)]
    rfl
  · exact .of_isLine (h.isLine_declaration hclass hentity) h.holdsName_declaration
  · exact fun line hline => (hbody line hline).holdsName

end SourceFile

/-- **Rendered files are well delimited**, when a permission that is given for them is blank or a
name. All brackets of the text are paired and nested. The braces open behind the declaration of the
class and stay open to the last brace of the text, behind which only a line feed follows. Each line
that begins with `namespace` or `using` holds one dotted name. -/
theorem rendered_files_delimited (l : Layout) {e : Entity} (built : e.Built) {flags : Flags}
    (given : ∀ name, flags.permission = some name →
      Text.isBlank name = true ∨ Name.isIdentifier (Text.trim name) = true)
    {kind : ArtifactKind} {text : String} (rendered : l.content e flags kind = .ok text) :
    Bracket.Nested (Text.brackets text) ∧
    (∃ place imports front members, l.artifact e kind = .ok place ∧
      front = "namespace " ++ place.nameSpace ++ ";\n\n" ++ SourceFile.importLines imports ++
        (kind.modifiers ++ "class " ++ place.className ++ kind.bases e.name) ++ "\n" ∧
      text = front ++ "\x7b" ++ members ++ "\x7d\n" ∧
      ∀ before after, text.toList = before ++ after →
        (Source.depth before = 0 ↔ before <+: front.toList ∨ after <:+ ['\n'])) ∧
    ∀ line ∈ Text.splitOn '\n' text, ∀ word ∈ ["namespace ", "using "], ∀ rest,
      line = word ++ rest → ∃ name, rest = name ++ ";" ∧ Name.isDotted name = true := by
  have he : e.IsNamed := built.isNamed
  have hpermission := Flags.isIdentifier_effectivePermission he.plural given
  obtain ⟨p, hp⟩ := Layout.exists_artifact_of_content rendered
  obtain ⟨f, rfl, hfits, hbody⟩ := Layout.file_around_members he hp rendered
  have hspace : Name.isDotted p.nameSpace = true :=
    Layout.isDotted_nameSpace (Folder.isNamed_ofArtifact he kind) hp
  have hclass : Name.isIdentifier p.className = true := Layout.isIdentifier_of_artifact he hp
  have hfront := hfits.brackets_front hspace hclass he.name
  have hmembers : Bracket.Nested (Text.brackets f.memberLines) := by
    have hnested := Layout.nested_members he hpermission hclass kind
    rw [← hbody] at hnested
    exact (SourceFile.nestedAround_memberLines (.of_nested hnested)).nested Bracket.Nested.nil
  refine ⟨?_, ⟨p, f.imports, f.front, f.memberLines, hp, ?_, f.render_eq, ?_⟩, ?_⟩
  · have hbraces : Text.brackets f.render = '\x7b' :: (Text.brackets f.memberLines ++ ['\x7d']) := by
      rw [f.render_eq, Text.brackets_append, Text.brackets_append, Text.brackets_append, hfront]
      rfl
    rw [hbraces]
    exact .between rfl hmembers
  · unfold SourceFile.front
    rw [hfits.name_space, hfits.declaration]
  · intro before after hsplit
    rw [f.render_eq] at hsplit
    exact Source.depth_eq_zero_iff hfront hmembers hsplit
  · refine hfits.everyLine_holdsName hspace hclass he.name ?_
    rw [hbody]
    exact Layout.everyLine_members he hpermission (Name.isLine_of_isIdentifier hclass) kind

/-- The tests of a protected transfer are nested, and what they import are dotted names. -/
theorem transfer_tests_delimited :
    let flags : Flags :=
      { softDelete := true, isProtected := true, permission := some " CanMoveFunds " }
    ∃ (e : Entity) (text : String), Draft.transfer.build = .ok e ∧
      (Layout.conventional "/sln" "Shop").content e flags .deleteCommandTest = .ok text ∧
      Bracket.Nested (Text.brackets text) ∧ ∀ name,
        "using " ++ name ++ ";" ∈ Text.splitOn '\n' text → Name.isDotted name = true := by
  intro flags
  obtain ⟨text, htext⟩ : ∃ text, Draft.transfer.build >>=
      ((Layout.conventional "/sln" "Shop").content · flags .deleteCommandTest) = .ok text :=
    isSome_toOption_iff.mp (by decide +kernel)
  obtain ⟨e, build, hcontent⟩ := bind_eq_ok_iff.mp htext
  have hgiven : ∀ name, flags.permission = some name →
      Text.isBlank name = true ∨ Name.isIdentifier (Text.trim name) = true := by
    intro name hname
    cases hname
    exact .inr (by decide +kernel)
  obtain ⟨hnested, -, hlines⟩ := rendered_files_delimited _ (.draft build) hgiven hcontent
  refine ⟨e, text, build, hcontent, hnested, ?_⟩
  intro name hline
  obtain ⟨other, hother, hdotted⟩ :=
    hlines _ hline "using " (by simp) (name ++ ";") String.append_assoc
  rwa [(String.append_left_inj _).mp hother]

end Scaffold
