/-
  Scaffold/Proofs/Render/Guard.lean
  =================================
  **The feature with and without its guard.**

  A protected feature is the open one with five texts put in: the import of the guard, the field that
  keeps it, the parameter of the constructor, the assignment, and the check of the permission
  (`Handler.Parts`). Nothing else depends on the flags, not even whether the feature can be
  rendered.
-/
import Scaffold.Proofs.Layout.Places
import Scaffold.Proofs.Render.Flags
import Scaffold.Proofs.Source.Imports
import Scaffold.Proofs.Source.Lines

namespace Scaffold

open Text (endLines)
open Source (indent)

/-! ### Imports -/

/-- Adding one name keeps imports that differ by another name alike around it. -/
theorem SourceFile.importing_beside {f g : SourceFile} {front back : List String} {name other : String}
    (hf : f.imports = front ++ back) (hg : g.imports = front ++ name :: back) (hne : other ≠ name) :
    ∃ after, (f.importing other).imports = front ++ after ∧
      (g.importing other).imports = front ++ name :: after := by
  have hsame : other ∈ f.imports ↔ other ∈ g.imports := by
    rw [hf, hg, List.mem_append, List.mem_append, List.mem_cons, or_iff_right hne]
  rcases f.importing_cases other with ⟨hfsame, hother⟩ | ⟨hfadd, hnonempty, hnew⟩
  · refine ⟨back, ?_, ?_⟩
    · rw [hfsame, hf]
    · rcases g.importing_cases other with ⟨hgsame, -⟩ | ⟨-, hnonempty, hnew⟩
      · rw [hgsame, hg]
      · exact absurd hother (not_or.mpr ⟨hnonempty, mt hsame.mp hnew⟩)
  · refine ⟨back ++ [other], ?_, ?_⟩
    · rw [hfadd, hf, List.append_assoc]
    · rcases g.importing_cases other with ⟨-, hother⟩ | ⟨hgadd, -, -⟩
      · exact absurd hother (not_or.mpr ⟨hnonempty, mt hsame.mpr hnew⟩)
      · rw [hgadd, hg, List.append_assoc, List.cons_append]

/-- The line that imports a name. -/
def SourceFile.importLine (name : String) : String := "using " ++ name ++ ";"

theorem SourceFile.importLines_append {front back : List String} (h : front ++ back ≠ []) :
    importLines (front ++ back) =
      endLines (front.map importLine) ++ (endLines (back.map importLine) ++ "\n") := by
  unfold importLines
  rw [if_neg (mt List.isEmpty_iff.mp h), List.map_append, Text.endLines_append, String.append_assoc]
  rfl

namespace Layout

variable {l : Layout} {e : Entity} {folder : Folder} {name : String}

/-- A namespace of several folders has a dot. -/
theorem dot_mem_of_namespaceOf (h : l.namespaceOf e folder = .ok name)
    (hfolders : 2 ≤ (folder.projectSuffix.toList ++ folder.folders).length) :
    '.' ∈ name.toList := by
  obtain ⟨p, hp, rfl⟩ := namespaceOf_eq_ok_iff.mp h
  obtain ⟨-, -, segments, hsegments, rfl⟩ := resolve_eq_ok_iff.mp hp
  have hlength : 2 ≤ segments.length := by
    cases hsuffix : folder.projectSuffix with
    | none =>
      unfold Layout.segments at hsegments
      rw [hsuffix] at hsegments hfolders
      cases hsegments
      exact hfolders
    | some suffix =>
      obtain ⟨-, rfl⟩ := (segments_eq_ok_iff hsuffix).mp hsegments
      rw [hsuffix] at hfolders
      exact hfolders
  change '.' ∈ (Text.joinWith "." segments).toList
  match segments, hlength with
  | first :: second :: rest, _ =>
    rw [Text.joinWith, String.toList_append, String.toList_append, Name.toList_dot]
    exact List.mem_append_left _ (List.mem_append_right _ List.mem_cons_self)

end Layout

namespace Handler

/-! ### The five texts of the guard -/

/-- The text of an open feature, cut where its guard would stand. -/
structure Parts where
  before : String
  afterImport : String
  afterField : String
  afterParameter : String
  afterAssignment : String
  afterCheck : String

/-- The call that checks a permission. -/
def check (permission : String) : String :=
  "await _heimGuard.MustHavePermission<ForbiddenAccessException>(Permissions." ++ permission ++ ");"

/-- The feature; when a permission is checked, with the five texts of the guard. -/
def Parts.text (parts : Parts) : Option String → String
  | none =>
    parts.before ++ (parts.afterImport ++ (parts.afterField ++ (parts.afterParameter ++
      (parts.afterAssignment ++ parts.afterCheck))))
  | some permission =>
    parts.before ++ ("using HeimGuard;\n" ++
    (parts.afterImport ++ ("        private readonly IHeimGuardClient _heimGuard;\n" ++
    (parts.afterField ++ (", IHeimGuardClient heimGuard" ++
    (parts.afterParameter ++ ("            _heimGuard = heimGuard;\n" ++
    (parts.afterAssignment ++ ("            " ++ (check permission ++ ("\n\n" ++
    parts.afterCheck)))))))))))

/-! ### The members of the class -/

/-- The dependencies of every handler. -/
def ownDependencies (e : Entity) : List Dependency :=
  [⟨Name.repository e.name, repositoryName e⟩, ⟨"IUnitOfWork", "unitOfWork"⟩]

/-- The dependency of a protected handler. -/
def guardDependency (permission : Option String) : List Dependency :=
  if permission.isSome then [⟨"IHeimGuardClient", "heimGuard"⟩] else []

/-- The line that declares the method. -/
def methodLine : String :=
  "public async Task Handle(" ++ Name.command ++ " request, CancellationToken cancellationToken)"

/-- The parts of the feature of an entity. `before` comes before the import of the guard, `between`
between that and the members of the class. -/
def Parts.of (e : Entity) (before between : String) : Parts where
  before
  afterImport := between ++ (endLines (indent [commandLine e, ""]) ++
    ("    public sealed class Handler" ++ (" : IRequestHandler<" ++ (Name.command ++ (">\n" ++
      endLines (indent (["\x7b"] ++ indent ((ownDependencies e).map Dependency.field))))))))
  afterField := "\n        public Handler(" ++
    Text.joinWith ", " ((ownDependencies e).map Dependency.parameter)
  afterParameter := ")\n" ++ endLines (indent (indent
    (["\x7b"] ++ indent ((ownDependencies e).map Dependency.assignment))))
  afterAssignment := endLines (indent (indent ["\x7d", "", methodLine, "\x7b"]))
  afterCheck := endLines (indent (indent (indent (handleLines e none) ++ ["\x7d"]) ++ ["\x7d"])) ++
    "\x7d\n"

theorem parameters_eq (e : Entity) (permission : Option String) :
    Text.joinWith ", " ((dependencies e permission).map Dependency.parameter) =
      Text.joinWith ", " ((ownDependencies e).map Dependency.parameter) ++
        if permission.isSome then ", IHeimGuardClient heimGuard" else "" := by
  have hall : dependencies e permission = ownDependencies e ++ guardDependency permission := rfl
  rw [hall, List.map_append]
  cases permission with
  | none =>
    exact (congrArg _ (List.append_nil _)).trans String.append_empty.symm
  | some permission =>
    have hown : (ownDependencies e).map Dependency.parameter ≠ [] := List.cons_ne_nil _ _
    have hguard : (guardDependency (some permission)).map Dependency.parameter ≠ [] :=
      List.cons_ne_nil _ _
    exact (Text.joinWith_append ", " hown hguard).trans String.append_assoc

/-- The members, with what depends on the permission on lines of its own. -/
theorem lines_eq (e : Entity) (permission : Option String) :
    lines e permission = [commandLine e, ""] ++
      ["public sealed class Handler : IRequestHandler<" ++ Name.command ++ ">"] ++ ["\x7b"] ++
      indent ((ownDependencies e).map Dependency.field ++
        (guardDependency permission).map Dependency.field ++ [""] ++
        ["public Handler(" ++
          Text.joinWith ", " ((dependencies e permission).map Dependency.parameter) ++ ")"] ++
        ["\x7b"] ++
        indent ((ownDependencies e).map Dependency.assignment ++
          (guardDependency permission).map Dependency.assignment) ++
        ["\x7d", "", methodLine, "\x7b"] ++
        indent (guardLines permission ++ handleLines e none) ++ ["\x7d"]) ++ ["\x7d"] := by
  have hall : dependencies e permission = ownDependencies e ++ guardDependency permission := rfl
  have hhandle : handleLines e permission = guardLines permission ++ handleLines e none := rfl
  unfold lines
  dsimp only
  rw [hhandle]
  simp only [Source.spaced, Source.block, hall, List.map_append, List.append_assoc,
    List.cons_append, List.nil_append]
  rfl

theorem endLines_constructor (parameters : String) :
    endLines (indent (indent ["public Handler(" ++ parameters])) =
      "        public Handler(" ++ (parameters ++ "\n") := by
  have hline : "public Handler(" ++ parameters ≠ "" := Text.append_ne_empty_left (by decide) _
  have hmoved := Text.append_ne_empty_right hline "    "
  have hfront : "        public Handler(" = "    " ++ ("    " ++ "public Handler(") := rfl
  have hend : endLines (indent (indent [])) = "" := rfl
  rw [Source.indent_cons hline, Source.indent_cons hmoved, Text.endLines_cons, hend, hfront]
  simp only [String.append_assoc, String.append_empty]

theorem endLines_check (permission : String) :
    endLines (indent (indent (indent (guardLines (some permission))))) =
      "            " ++ (check permission ++ "\n\n") := by
  have hline : check permission ≠ "" :=
    Text.append_ne_empty_left (Text.append_ne_empty_left (by decide) _) _
  have hmoved := Text.append_ne_empty_right hline "    "
  have htwice := Text.append_ne_empty_right hmoved "    "
  have hfront : "            " = "    " ++ ("    " ++ "    ") := rfl
  have hlines : guardLines (some permission) = [check permission, ""] := rfl
  have hblank : endLines (indent (indent (indent [""]))) = "\n" := rfl
  have hbreaks : "\n\n" = "\n" ++ "\n" := rfl
  rw [hlines, Source.indent_cons hline, Source.indent_cons hmoved, Source.indent_cons htwice,
    Text.endLines_cons, hblank, hfront, hbreaks]
  simp only [String.append_assoc]

theorem text_of (e : Entity) (before between : String) (permission : Option String) :
    (Parts.of e before between).text permission = before ++
      ((if permission.isSome then "using HeimGuard;\n" else "") ++
      (between ++ (endLines (indent (lines e permission)) ++ "\x7d\n"))) := by
  have hnone : endLines [] = "" := rfl
  have hnoLine : indent [] = [] := rfl
  have hclass : endLines (indent
      ["public sealed class Handler : IRequestHandler<" ++ (Name.command ++ ">")]) =
      "    public sealed class Handler" ++ (" : IRequestHandler<" ++ (Name.command ++ ">\n")) := rfl
  have hconstructor : "\n        public Handler(" = "\n" ++ "        public Handler(" := rfl
  have hbracket : ")\n" = ")" ++ "\n" := rfl
  have hblank : endLines (indent (indent [""])) = "\n" := rfl
  rw [lines_eq, parameters_eq]
  simp only [Source.indent_append, Text.endLines_append, String.append_assoc]
  -- both sides are cut into the same lines; only those that the permission changes are read
  cases permission with
  | none =>
    have hguard : guardDependency none = [] := rfl
    have hlines : guardLines none = [] := rfl
    simp only [Parts.text, Parts.of, Source.indent_append, Text.endLines_append, hguard, hlines,
      List.map_nil, hnoLine, hnone, hclass, hblank, endLines_constructor, hconstructor, hbracket,
      Option.isSome_none, Bool.false_eq_true, if_false, String.empty_append, String.append_assoc]
  | some permission =>
    have hfield : endLines (indent (indent
        ((guardDependency (some permission)).map Dependency.field))) =
        "        private readonly IHeimGuardClient _heimGuard;\n" := rfl
    have hassignment : endLines (indent (indent (indent
        ((guardDependency (some permission)).map Dependency.assignment)))) =
        "            _heimGuard = heimGuard;\n" := rfl
    simp only [Parts.text, Parts.of, Source.indent_append, Text.endLines_append, hfield, hassignment,
      hclass, hblank, endLines_constructor, endLines_check, hconstructor, hbracket,
      Option.isSome_some, if_true, String.append_assoc]

/-! ### The file -/

/-- The import of the guard stands between imports that do not depend on the permission. -/
theorem exists_imports {l : Layout} {e : Entity} {entityServices services exceptions : String}
    (hentity : l.namespaceOf e (.entityServices e) = .ok entityServices)
    (hservices : l.namespaceOf e .services = .ok services)
    (hexceptions : l.namespaceOf e .exceptions = .ok exceptions) (nameSpace declaration : String) :
    ∃ front back, front ++ back ≠ [] ∧ ∀ permission : Option String,
      (({ nameSpace, declaration } : SourceFile).importingAll ([entityServices, services, exceptions] ++
        (if permission.isSome then ["HeimGuard"] else []) ++ ["MediatR"])).imports =
      front ++ ((if permission.isSome then ["HeimGuard"] else []) ++ back) := by
  let f : SourceFile := ({ nameSpace, declaration } : SourceFile).importingAll
    [entityServices, services, exceptions]
  -- the guard's namespace has no dot, so it is none of the others
  have hfresh : "HeimGuard" ∉ f.imports := by
    intro hmem
    have hdot : '.' ∈ "HeimGuard".toList := by
      rcases SourceFile.mem_imports_importingAll.mp hmem with hnone | ⟨hmem, -⟩
      · cases hnone
      · simp only [List.mem_cons, List.not_mem_nil, or_false] at hmem
        rcases hmem with rfl | rfl | rfl
        · exact Layout.dot_mem_of_namespaceOf hentity (Nat.le_add_left 2 2)
        · exact Layout.dot_mem_of_namespaceOf hservices (by decide)
        · exact Layout.dot_mem_of_namespaceOf hexceptions (by decide)
    exact absurd hdot (by decide)
  have hguarded : (f.importing "HeimGuard").imports = f.imports ++ ["HeimGuard"] := by
    rcases f.importing_cases "HeimGuard" with ⟨-, hother⟩ | ⟨hadd, -⟩
    · exact absurd hother (not_or.mpr ⟨by decide, hfresh⟩)
    · rw [hadd]
  have hother : "MediatR" ≠ "HeimGuard" := by decide
  obtain ⟨back, hopen, hprotected⟩ := SourceFile.importing_beside (List.append_nil f.imports).symm
    hguarded hother
  refine ⟨f.imports, back, ?_, ?_⟩
  · have hmem : "MediatR" ∈ (f.importing "MediatR").imports :=
      SourceFile.mem_imports_importing.mpr (.inr ⟨rfl, by decide⟩)
    rw [hopen] at hmem
    exact List.ne_nil_of_mem hmem
  · intro permission
    cases permission with
    | none => exact hopen
    | some permission => exact hprotected

theorem members_lines_ne_empty (e : Entity) (permission : Option String) :
    Source.members (lines e permission) ≠ "" := by
  refine (holds_commandLine e permission).members.ne_empty ?_
  unfold commandLine
  simp only [String.append_assoc]
  exact Text.append_ne_empty_left (by decide) _

/-- **The feature of an entity for all flags.** Where it is rendered for some flags, it is rendered
for all, from the same parts. -/
theorem exists_parts {l : Layout} {e : Entity} {flags : Flags} {text : String}
    (h : l.content e flags .deleteFeature = .ok text) :
    ∃ before between, ∀ others, l.content e others .deleteFeature =
      .ok ((Parts.of e before between).text (others.effectivePermission "Delete" e.plural)) := by
  change render l e flags = .ok text at h
  unfold render at h
  obtain ⟨place, hplace, h⟩ := bind_eq_ok_iff.mp h
  obtain ⟨entityServices, hentity, h⟩ := bind_eq_ok_iff.mp h
  obtain ⟨services, hservices, h⟩ := bind_eq_ok_iff.mp h
  obtain ⟨exceptions, hexceptions, -⟩ := bind_eq_ok_iff.mp h
  let file : SourceFile :=
    { nameSpace := place.nameSpace, declaration := "public static class " ++ place.className }
  obtain ⟨front, back, hne, himports⟩ := exists_imports hentity hservices hexceptions file.nameSpace
    file.declaration
  refine ⟨"namespace " ++ file.nameSpace ++ ";\n\n" ++ endLines (front.map SourceFile.importLine),
    endLines (back.map SourceFile.importLine) ++ "\n" ++ file.declaration ++ "\n\x7b\n", ?_⟩
  intro others
  generalize hpermission : others.effectivePermission "Delete" e.plural = permission
  have hrender : l.content e others .deleteFeature =
      .ok (((file.importingAll ([entityServices, services, exceptions] ++
        (if permission.isSome then ["HeimGuard"] else []) ++ ["MediatR"])).withBody
        (Source.members (lines e permission))).render) := by
    change render l e others = _
    unfold render
    rw [hplace, hentity, hservices, hexceptions, ← hpermission]
    rfl
  have hmembers := members_lines_ne_empty e permission
  have hall : front ++ ((if permission.isSome then ["HeimGuard"] else []) ++ back) ≠ [] := by
    intro hnil
    obtain ⟨hfront, hrest⟩ := List.append_eq_nil_iff.mp hnil
    exact hne (List.append_eq_nil_iff.mpr ⟨hfront, (List.append_eq_nil_iff.mp hrest).2⟩)
  have hguard : endLines ((if permission.isSome then ["HeimGuard"] else []).map
      SourceFile.importLine) = if permission.isSome then "using HeimGuard;\n" else "" := by
    cases permission <;> rfl
  have hopen : "\n\x7b\n" = "\n" ++ "\x7b\n" := rfl
  have hclose : "\n\x7d\n" = "\n" ++ "\x7d\n" := rfl
  rw [hrender, text_of, Source.endLines_indent hmembers, SourceFile.render_withBody _ hmembers,
    SourceFile.importingAll_eq]
  unfold SourceFile.front
  rw [himports, SourceFile.importLines_append hall, List.map_append, Text.endLines_append, hguard,
    hopen, hclose]
  simp only [String.append_assoc]

/-! ### The handler up to its check -/

/-- No dot stands in the text, so nothing of an object is used in it. -/
def IsDotless (s : String) : Prop := ∀ c ∈ s.toList, c ≠ '.'

namespace IsDotless

theorem append {s t : String} (hs : IsDotless s) (ht : IsDotless t) : IsDotless (s ++ t) := by
  unfold IsDotless
  rw [String.toList_append, List.forall_mem_append]
  exact ⟨hs, ht⟩

/-- A literal is the text of its characters. -/
theorem literal (cs : List Char) (h : cs.contains '.' = false) : IsDotless (String.ofList cs) := by
  unfold IsDotless
  rw [String.toList_ofList]
  rintro c hc rfl
  rw [List.contains_iff_mem.mpr hc] at h
  cases h

theorem of_isIdentifier {name : String} (h : Name.isIdentifier name = true) : IsDotless name :=
  fun c hc => Name.ne_dot_of_isPart (Name.isPart_of_mem h c hc)

theorem brace : IsDotless "\x7b" := literal ['\x7b'] (by decide)

theorem indent {lines : List String} (h : ∀ line ∈ lines, IsDotless line) :
    ∀ line ∈ indent lines, IsDotless line :=
  Source.forall_mem_indent (by decide) h

theorem endLines {lines : List String} (h : ∀ line ∈ lines, IsDotless line) :
    IsDotless (endLines lines) :=
  Source.forall_mem_endLines (by decide) h

/-- A body between its braces, without the closing one. -/
theorem opened {lines : List String} (h : ∀ line ∈ lines, IsDotless line) :
    ∀ line ∈ ["\x7b"] ++ Source.indent lines, IsDotless line := by
  rw [List.forall_mem_append]
  exact ⟨List.forall_mem_singleton.mpr brace, indent h⟩

end IsDotless

section

variable {e : Entity} (he : e.IsNamed)

include he

/-- What is written for the dependencies has no dot when none is added to their names. -/
theorem dotless_map_ownDependencies {write : Dependency → String}
    (h : ∀ d : Dependency, IsDotless d.type → IsDotless d.name → IsDotless (write d)) :
    ∀ line ∈ (ownDependencies e).map write, IsDotless line := by
  intro line hline
  obtain ⟨d, hd, rfl⟩ := List.mem_map.mp hline
  have hmem : d ∈ dependencies e none := List.mem_append_left _ hd
  obtain ⟨htype, hname⟩ := isIdentifier_dependency he hmem
  exact h d (.of_isIdentifier htype) (.of_isIdentifier hname)

theorem dotless_fields : IsDotless (endLines (indent
    (["\x7b"] ++ indent ((ownDependencies e).map Dependency.field)))) := by
  have hlines : ∀ line ∈ (ownDependencies e).map Dependency.field, IsDotless line := by
    refine dotless_map_ownDependencies he ?_
    intro d htype hname
    exact (((IsDotless.append (.literal _ (by decide)) htype).append (.literal _ (by decide))).append
      hname).append (.literal _ (by decide))
  exact .endLines (IsDotless.indent (IsDotless.opened hlines))

theorem dotless_parameters : IsDotless
    (Text.joinWith ", " ((ownDependencies e).map Dependency.parameter)) := by
  have hparameters : ∀ line ∈ (ownDependencies e).map Dependency.parameter, IsDotless line := by
    refine dotless_map_ownDependencies he ?_
    intro d htype hname
    exact (htype.append (.literal _ (by decide))).append hname
  intro c hc
  rcases Text.mem_joinWith hc with hglue | ⟨line, hline, hc⟩
  · exact IsDotless.literal [',', ' '] (by decide) c hglue
  · exact hparameters line hline c hc

theorem dotless_assignments : IsDotless (endLines (indent (indent
    (["\x7b"] ++ indent ((ownDependencies e).map Dependency.assignment))))) := by
  have hlines : ∀ line ∈ (ownDependencies e).map Dependency.assignment, IsDotless line := by
    refine dotless_map_ownDependencies he ?_
    intro d _ hname
    exact ((((IsDotless.literal _ (by decide)).append hname).append (.literal _ (by decide))).append
      hname).append (.literal _ (by decide))
  exact .endLines (IsDotless.indent (IsDotless.indent (IsDotless.opened hlines)))

/-- **A protected handler checks its permission before it uses anything.** Up to the check the
handler has no dot, behind it the repository is used. -/
theorem check_first (before between permission : String) :
    ∃ start opening rest, (Parts.of e before between).text (some permission) =
        start ++ "public sealed class Handler" ++ opening ++ check permission ++ rest ∧
      IsDotless opening ∧ Text.Contains rest ("_" ++ repositoryName e ++ ".") := by
  let parts := Parts.of e before between
  have hclass : "    public sealed class Handler" = "    " ++ "public sealed class Handler" := rfl
  let fields := endLines (indent (["\x7b"] ++ indent ((ownDependencies e).map Dependency.field)))
  refine ⟨before ++ "using HeimGuard;\n" ++ between ++ endLines (indent [commandLine e, ""]) ++ "    ",
    " : IRequestHandler<" ++ (Name.command ++ (">\n" ++ fields)) ++
      "        private readonly IHeimGuardClient _heimGuard;\n" ++ parts.afterField ++
      ", IHeimGuardClient heimGuard" ++ parts.afterParameter ++
      "            _heimGuard = heimGuard;\n" ++ parts.afterAssignment ++ "            ",
    "\n\n" ++ parts.afterCheck, ?_, ?_, ?_⟩
  · simp only [Parts.text, Parts.of, parts, fields, hclass, String.append_assoc]
  · have hfields : IsDotless (" : IRequestHandler<" ++ (Name.command ++ (">\n" ++ fields))) :=
      .append (.literal _ (by decide)) (.append (.literal _ (by decide))
        (.append (.literal _ (by decide)) (dotless_fields he)))
    have hparameters : IsDotless parts.afterField :=
      .append (.literal _ (by decide)) (dotless_parameters he)
    have hassignments : IsDotless parts.afterParameter :=
      .append (.literal _ (by decide)) (dotless_assignments he)
    have hmethod : IsDotless parts.afterAssignment := by
      have hline : IsDotless methodLine :=
        ((IsDotless.literal _ (by decide)).append (.literal _ (by decide))).append
          (.literal _ (by decide))
      have hlines : ∀ line ∈ ["\x7d", "", methodLine, "\x7b"], IsDotless line := by
        simp only [List.forall_mem_cons]
        exact ⟨.literal ['\x7d'] (by decide), .literal [] (by decide), hline, .brace,
          List.forall_mem_nil _⟩
      exact .endLines (IsDotless.indent (IsDotless.indent hlines))
    exact ((((((hfields.append (.literal _ (by decide))).append hparameters).append
      (.literal _ (by decide))).append hassignments).append (.literal _ (by decide))).append
      hmethod).append (.literal _ (by decide))
  · have hholds : Source.Holds (handleLines e none) ("_" ++ repositoryName e ++ ".") := by
      refine ⟨_, List.mem_cons_self, "var recordToDelete = await ",
        "GetById(request." ++ e.key.name ++ ", cancellationToken: cancellationToken);", ?_⟩
      have hawait : "var recordToDelete = await _" = "var recordToDelete = await " ++ "_" := rfl
      have hcall : ".GetById(request." = "." ++ "GetById(request." := rfl
      simp only [hawait, hcall, String.append_assoc]
    exact ((((hholds.indent.append_right _).indent.append_right _).indent.endLines).append_right
      _).append_left _

end

end Handler

end Scaffold
