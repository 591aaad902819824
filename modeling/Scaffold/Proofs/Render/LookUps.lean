/-
  Scaffold/Proofs/Render/LookUps.lean
  ===================================
  **What a template looks up, and what is told when it cannot be named.**

  A template looks up one name after the other: the place of its own file, then the namespaces and
  files that it imports. Each look-up needs the root of its folder and, except for the exceptions
  that all projects share, the name of the project. `Layout.LooksUp` says which look-ups a computation
  makes, in their order; the first that cannot be named is the refusal of the whole.

  After the look-up of the own file the name of the project is known to be fit, so that only the other
  two roots can still be missing. That is `Layout.missing?`: what is told for each kind of file. It is
  the file asked for where the file's own root is missing. For another root it is the folder that a
  namespace was looked up for, or the delete feature, which its tests look up by its file.
-/
import Scaffold.Proofs.Entity.Built
import Scaffold.Proofs.Layout.Places
import Scaffold.Render

namespace Scaffold

namespace Layout

variable (l : Layout) {e : Entity}

/-! ### Why a folder cannot be named -/

/-- The reason why nothing below a root can be named. -/
def emptyRoot? (root : Root) : Option String :=
  if (root.path l).isEmpty then some (root.name ++ " directory is empty") else none

/-- The reason why the project has no folder. -/
def unfitProject? : Option String := refusal? (l.projectFolder "")

/-- The reason why a folder cannot be named. -/
def obstacle? (folder : Folder) : Option String :=
  (l.emptyRoot? folder.root).or (folder.projectSuffix.bind fun _ => l.unfitProject?)

theorem emptyRoot?_eq_none_iff {root : Root} : l.emptyRoot? root = none ↔ root.path l ≠ "" := by
  simp [emptyRoot?]

/-- What follows the name of the project has no part in it. -/
theorem refusal?_projectFolder (suffix : String) :
    refusal? (l.projectFolder suffix) = l.unfitProject? := by
  unfold unfitProject? projectFolder
  by_cases hempty : (Text.trim l.project).isEmpty = true
  · simp only [hempty, if_true]
  · by_cases hdotted : Name.isDotted (Text.trim l.project) = true
    · simp only [hempty, hdotted, if_true, Bool.false_eq_true, if_false, refusal?]
    · simp only [hempty, hdotted, Bool.false_eq_true, if_false]

theorem unfitProject?_eq_none_iff :
    l.unfitProject? = none ↔ Name.isDotted (Text.trim l.project) = true := by
  simp [unfitProject?, refusal?_eq_none_iff, projectFolder_eq_ok_iff]

theorem refusal?_segments (folder : Folder) :
    refusal? (l.segments folder) = folder.projectSuffix.bind fun _ => l.unfitProject? := by
  unfold Layout.segments
  cases folder.projectSuffix with
  | none => rfl
  | some suffix =>
    dsimp only [Option.bind_some]
    rw [refusal?_map, refusal?_projectFolder]

/-! ### Look-ups -/

/-- A look-up of a file in a folder, or of the folder's namespace when the file has no name. -/
structure LookUp where
  folder : Folder
  file : String

/-- The computation looks these names up, in this order, and refuses with the first that cannot be
named. -/
def LooksUp {α : Type} (e : Entity) (lookUps : List LookUp) (check : Except DomainError α) : Prop :=
  refusal? check =
    lookUps.findSome? fun lookUp => (l.obstacle? lookUp.folder).map (unresolvable e lookUp.file)

variable {l}

namespace LooksUp

variable {α β : Type} {check : Except DomainError α} {lookUps more : List LookUp}

theorem pure (a : α) : l.LooksUp e [] (pure a) := rfl

theorem bind {next : α → Except DomainError β} (h : l.LooksUp e lookUps check)
    (hnext : ∀ a, l.LooksUp e more (next a)) :
    l.LooksUp e (lookUps ++ more) (check >>= next) := by
  unfold LooksUp
  rw [refusal?_bind hnext, h, List.findSome?_append]

theorem cons {lookUp : LookUp} {next : α → Except DomainError β} (h : l.LooksUp e [lookUp] check)
    (hnext : ∀ a, l.LooksUp e more (next a)) : l.LooksUp e (lookUp :: more) (check >>= next) :=
  h.bind hnext

/-- What is done with the last answer looks nothing up. -/
theorem last (h : l.LooksUp e lookUps check) (f : α → β) :
    l.LooksUp e lookUps (check >>= fun a => Pure.pure (f a)) := by
  rw [← List.append_nil lookUps]
  exact h.bind fun a => .pure (f a)

theorem map (h : l.LooksUp e lookUps check) (f : α → β) : l.LooksUp e lookUps (check.map f) := by
  unfold LooksUp
  rw [refusal?_map, h]

theorem mapM {f : α → Except DomainError β} {lookUp : α → LookUp}
    (h : ∀ item, l.LooksUp e [lookUp item] (f item)) (items : List α) :
    l.LooksUp e (items.map lookUp) (items.mapM f) := by
  unfold LooksUp
  rw [refusal?_mapM, List.findSome?_map]
  congr 1
  funext item
  rw [h item]
  simp

end LooksUp

theorem looksUp_resolve (folder : Folder) {file : String}
    (hfile : ∀ c ∈ file.toList, c ≠ '/' ∧ c ≠ '\\') :
    l.LooksUp e [⟨folder, file⟩] (l.resolve e folder file) := by
  have hseparators : (file.toList.any fun c => c == '/' || c == '\\') = false := by
    rw [List.any_eq_false]
    intro c hc
    simp [hfile c hc]
  unfold LooksUp resolve
  simp only [List.findSome?_singleton, obstacle?, emptyRoot?, ← refusal?_segments, hseparators]
  by_cases hroot : (folder.root.path l).isEmpty = true
  · simp [hroot, refusal?]
  · simp only [hroot, Bool.false_eq_true, if_false, Option.none_or]
    cases l.segments folder <;> rfl

theorem looksUp_namespaceOf (folder : Folder) :
    l.LooksUp e [⟨folder, ""⟩] (l.namespaceOf e folder) :=
  (looksUp_resolve folder (List.forall_mem_nil _)).map ClassPath.nameSpace

theorem looksUp_artifact (he : e.IsNamed) (kind : ArtifactKind) :
    l.LooksUp e [⟨.ofArtifact e kind, kind.fileName e.name⟩] (l.artifact e kind) := by
  refine looksUp_resolve _ ?_
  refine (ArtifactKind.forall_mem_fileName_iff Name.not_separator_of_isPart (by decide) kind _).mpr ?_
  exact fun c hc => Name.not_separator_of_isPart c (Name.isPart_of_mem he.name c hc)

/-! ### The six kinds -/

/-- The namespace of a folder. -/
def LookUp.namespaceOf (folder : Folder) : LookUp := ⟨folder, ""⟩

/-- The place of an artifact. -/
def LookUp.artifact (e : Entity) (kind : ArtifactKind) : LookUp :=
  ⟨.ofArtifact e kind, kind.fileName e.name⟩

/-- What the template of a kind looks up, its own file first. -/
def lookUps (e : Entity) : ArtifactKind → List LookUp
  | .deleteFeature =>
    [.artifact e .deleteFeature, .namespaceOf (.entityServices e), .namespaceOf .services,
      .namespaceOf .exceptions]
  | .deleteCommandTest =>
    [.artifact e .deleteCommandTest, .namespaceOf (.fakes e.name), .artifact e .deleteFeature,
      .namespaceOf .exceptions] ++
    ((e.relationships.map (·.parent)).filter (· != e.name)).map fun parent =>
      .namespaceOf (.fakes parent)
  | .updateEntityTest =>
    [.artifact e .updateEntityTest, .namespaceOf (.fakes e.name), .namespaceOf (.entityClass e)]
  | .entityFaker =>
    [.artifact e .entityFaker, .namespaceOf (.entityClass e), .namespaceOf (.dtos e)]
  | .creationDtoFaker => [.artifact e .creationDtoFaker, .namespaceOf (.dtos e)]
  | .updateDtoFaker => [.artifact e .updateDtoFaker, .namespaceOf (.dtos e)]

theorem exists_lookUps_eq_cons (e : Entity) (kind : ArtifactKind) :
    ∃ rest, lookUps e kind = .artifact e kind :: rest := by
  cases kind <;> exact ⟨_, rfl⟩

theorem looksUp_imports : l.LooksUp e
    (((e.relationships.map (·.parent)).filter (· != e.name)).map fun parent =>
      .namespaceOf (.fakes parent)) (Seeds.imports l e) := by
  unfold Seeds.imports
  exact (LooksUp.mapM (fun parent => looksUp_namespaceOf (.fakes parent)) _).last _

section Templates

variable (flags : Flags) (he : e.IsNamed)

include he

theorem looksUp_deleteFeature : l.LooksUp e (lookUps e .deleteFeature) (Handler.render l e flags) := by
  unfold Handler.render
  refine .cons (looksUp_artifact he _) fun place => ?_
  refine .cons (looksUp_namespaceOf _) fun entityServices => ?_
  refine .cons (looksUp_namespaceOf _) fun services => ?_
  exact .last (looksUp_namespaceOf _) _

theorem looksUp_deleteCommandTest :
    l.LooksUp e (lookUps e .deleteCommandTest) (DeleteSuite.render l e flags) := by
  unfold DeleteSuite.render
  refine .cons (looksUp_artifact he _) fun place => ?_
  refine .cons (looksUp_namespaceOf _) fun fakes => ?_
  refine .cons (looksUp_artifact he _) fun feature => ?_
  refine .cons (looksUp_namespaceOf _) fun exceptions => ?_
  exact .last looksUp_imports _

theorem looksUp_updateEntityTest :
    l.LooksUp e (lookUps e .updateEntityTest) (UpdateSuite.render l e) := by
  unfold UpdateSuite.render
  refine .cons (looksUp_artifact he _) fun place => ?_
  refine .cons (looksUp_namespaceOf _) fun fakes => ?_
  exact .last (looksUp_namespaceOf _) _

theorem looksUp_entityFaker : l.LooksUp e (lookUps e .entityFaker) (Fakes.renderEntity l e) := by
  unfold Fakes.renderEntity
  refine .cons (looksUp_artifact he _) fun place => ?_
  refine .cons (looksUp_namespaceOf _) fun entityClass => ?_
  exact .last (looksUp_namespaceOf _) _

theorem looksUp_dtoFaker (shape : DtoShape) :
    l.LooksUp e [.artifact e (Fakes.artifactOf shape), .namespaceOf (.dtos e)]
      (Fakes.renderDto l e shape) := by
  unfold Fakes.renderDto
  refine .cons (looksUp_artifact he _) fun place => ?_
  exact .last (looksUp_namespaceOf _) _

theorem looksUp_content (kind : ArtifactKind) :
    l.LooksUp e (lookUps e kind) (l.content e flags kind) := by
  cases kind with
  | deleteFeature => exact looksUp_deleteFeature flags he
  | deleteCommandTest => exact looksUp_deleteCommandTest flags he
  | updateEntityTest => exact looksUp_updateEntityTest he
  | entityFaker => exact looksUp_entityFaker he
  | creationDtoFaker => exact looksUp_dtoFaker he .creation
  | updateDtoFaker => exact looksUp_dtoFaker he .update

/-- Rendering looks up the place of the file once more, before the template does. -/
theorem looksUp_render (kind : ArtifactKind) :
    l.LooksUp e (.artifact e kind :: lookUps e kind) (l.render e flags kind) := by
  unfold render
  refine .cons (looksUp_artifact he kind) fun place => ?_
  exact .last (looksUp_content flags he kind) _

end Templates

/-! ### What is missing -/

variable (l)

/-- What is missing for a file of a kind: the file that the refusal names, and its reason. What the
file's own place needs is missed first; all that can be missing then is another root. -/
def missing? (e : Entity) (kind : ArtifactKind) : Option (String × String) :=
  match l.obstacle? (.ofArtifact e kind) with
  | some reason => some (kind.fileName e.name, reason)
  | none =>
    if l.src = "" then
      some (if kind = .deleteCommandTest then ArtifactKind.deleteFeature.fileName e.name
        else "<namespace>", "src directory is empty")
    else if (kind = .deleteFeature ∨ kind = .deleteCommandTest) ∧ l.solution = "" then
      some ("<namespace>", "solution directory is empty")
    else none

theorem obstacle?_ofArtifact_eq_none_iff (e : Entity) (kind : ArtifactKind) :
    l.obstacle? (.ofArtifact e kind) = none ↔
      (Folder.ofArtifact e kind).root.path l ≠ "" ∧
        Name.isDotted (Text.trim l.project) = true := by
  obtain ⟨suffix, hsuffix⟩ := Folder.exists_projectSuffix e kind
  rw [obstacle?, hsuffix, Option.bind_some, Option.or_eq_none_iff, emptyRoot?_eq_none_iff,
    unfitProject?_eq_none_iff]

/-- Where the project has a name, a folder misses nothing but its root. -/
theorem obstacle?_of_fit (hproject : l.unfitProject? = none) (folder : Folder) :
    l.obstacle? folder = l.emptyRoot? folder.root := by
  rw [obstacle?, hproject]
  cases folder.projectSuffix <;> simp

theorem unresolvable_fileName (e : Entity) (kind : ArtifactKind) (reason : String) :
    unresolvable e (kind.fileName e.name) reason =
      .unresolvableName e.name (kind.fileName e.name) reason := by
  have hne : (kind.fileName e.name).isEmpty = false := by
    rw [String.isEmpty_eq_false_iff]
    intro hempty
    have hlength := congrArg String.length hempty
    rw [ArtifactKind.fileName, String.length_append] at hlength
    have hcs : ".cs".length = 3 := by decide
    have hnil : "".length = 0 := by decide
    omega
  simp only [unresolvable, hne, Bool.false_eq_true, if_false]

theorem emptyRoot?_src :
    l.emptyRoot? .src = if l.src = "" then some "src directory is empty" else none := by
  simp [emptyRoot?, Root.path, Root.name]

theorem emptyRoot?_solution :
    l.emptyRoot? .solution =
      if l.solution = "" then some "solution directory is empty" else none := by
  simp [emptyRoot?, Root.path, Root.name]

/-- Once the place of the file itself can be named, only the sources and the solution can be
missing. -/
theorem findSome?_lookUps_of_own {kind : ArtifactKind}
    (hown : l.obstacle? (.ofArtifact e kind) = none) :
    ((lookUps e kind).findSome? fun lookUp =>
      (l.obstacle? lookUp.folder).map (unresolvable e lookUp.file)) =
    (l.missing? e kind).map fun m => .unresolvableName e.name m.1 m.2 := by
  obtain ⟨hroot, hdotted⟩ := (l.obstacle?_ofArtifact_eq_none_iff e kind).mp hown
  have hobstacle := l.obstacle?_of_fit (l.unfitProject?_eq_none_iff.mpr hdotted)
  have hthere := l.emptyRoot?_eq_none_iff.mpr hroot
  have hnamespace : ∀ reason, unresolvable e "" reason =
      .unresolvableName e.name "<namespace>" reason := fun _ => rfl
  simp only [missing?, hown, hobstacle]
  cases kind <;>
    dsimp only [Folder.ofArtifact, Folder.features, Folder.featureTests, Folder.unitTests,
      Folder.fakes, Folder.entityServices, Folder.services, Folder.exceptions, Folder.entityClass,
      Folder.dtos, lookUps, LookUp.artifact, LookUp.namespaceOf] at hthere hroot ⊢
  case deleteFeature =>
    have hsrc : l.src ≠ "" := hroot
    by_cases hsolution : l.solution = "" <;>
      simp [hthere, l.emptyRoot?_solution, hsrc, hsolution, hnamespace]
  case deleteCommandTest =>
    by_cases hsrc : l.src = ""
    · simp [hthere, l.emptyRoot?_src, hsrc, unresolvable_fileName]
    · by_cases hsolution : l.solution = ""
      · simp [hthere, l.emptyRoot?_src, l.emptyRoot?_solution, hsrc, hsolution, hnamespace]
      · -- the fakers of the parents lie below the root of the tests, as the file itself does
        rw [List.findSome?_append, List.findSome?_map]
        simp [hthere, l.emptyRoot?_src, l.emptyRoot?_solution, hsrc, hsolution]
  all_goals
    by_cases hsrc : l.src = "" <;> simp [hthere, l.emptyRoot?_src, hsrc, hnamespace]

theorem findSome?_lookUps (e : Entity) (kind : ArtifactKind) :
    ((lookUps e kind).findSome? fun lookUp =>
      (l.obstacle? lookUp.folder).map (unresolvable e lookUp.file)) =
    (l.missing? e kind).map fun m => .unresolvableName e.name m.1 m.2 := by
  cases hown : l.obstacle? (.ofArtifact e kind) with
  | none => exact l.findSome?_lookUps_of_own hown
  | some reason =>
    obtain ⟨rest, hrest⟩ := exists_lookUps_eq_cons e kind
    simp [hrest, LookUp.artifact, missing?, hown, unresolvable_fileName]

section Refusals

variable (flags : Flags) (he : e.IsNamed) (kind : ArtifactKind)

include he

theorem refusal?_content : refusal? (l.content e flags kind) =
    (l.missing? e kind).map fun m => .unresolvableName e.name m.1 m.2 :=
  (looksUp_content flags he kind).trans (l.findSome?_lookUps e kind)

/-- The place of the file is the first look-up of the template anyway. -/
theorem refusal?_render : refusal? (l.render e flags kind) =
    (l.missing? e kind).map fun m => .unresolvableName e.name m.1 m.2 := by
  rw [← l.refusal?_content flags he kind, looksUp_render flags he kind, looksUp_content flags he kind]
  obtain ⟨rest, hrest⟩ := exists_lookUps_eq_cons e kind
  rw [hrest, List.findSome?_cons, List.findSome?_cons]
  cases l.obstacle? (LookUp.artifact e kind).folder with
  | none => simp only [Option.map_none]
  | some reason => simp only [Option.map_some]

end Refusals

/-- What is missing is told under the file asked for exactly when that file's own place misses it. -/
theorem file_of_missing_iff {kind : ArtifactKind} {file reason : String}
    (h : l.missing? e kind = some (file, reason)) :
    file = kind.fileName e.name ↔ l.obstacle? (.ofArtifact e kind) ≠ none := by
  have hnamespace : "<namespace>" ≠ kind.fileName e.name := by
    intro heq
    have hends : Text.endsWith "<namespace>" ".cs" = true :=
      Text.endsWith_iff.mpr ⟨kind.className e.name, heq⟩
    exact absurd hends (by decide)
  have hfeature : ArtifactKind.deleteFeature.fileName e.name ≠
      ArtifactKind.deleteCommandTest.fileName e.name := by
    intro heq
    have hlength := congrArg String.length heq
    simp only [ArtifactKind.fileName, ArtifactKind.className, Name.deleteFeature,
      Name.deleteCommandTests, String.length_append] at hlength
    have htests : "CommandTests".length = 12 := by decide
    omega
  unfold missing? at h
  split at h
  · next own howns =>
    cases h
    simp [howns]
  · next howns =>
    have hother : file ≠ kind.fileName e.name := by
      split at h
      · cases h
        by_cases hkind : kind = .deleteCommandTest
        · rw [if_pos hkind, hkind]
          exact hfeature
        · rw [if_neg hkind]
          exact hnamespace
      · split at h
        · cases h
          exact hnamespace
        · cases h
    simp [howns, hother]

end Layout

/-- **What a refusal to render names.** It names the entity, whatever is missing. It names the file
asked for exactly when that file's own root or the name of the project is missing; for another root it
names what the template looked up there. -/
theorem refusal_names_what_is_missing (l : Layout) {e : Entity} (built : e.Built) (flags : Flags)
    (kind : ArtifactKind) :
    (∀ cause, l.render e flags kind = .error cause ↔ ∃ file reason,
      l.missing? e kind = some (file, reason) ∧ .unresolvableName e.name file reason = cause) ∧
    ∀ file reason, l.missing? e kind = some (file, reason) →
      (file = kind.fileName e.name ↔ (Folder.ofArtifact e kind).root.path l = "" ∨
        Name.isDotted (Text.trim l.project) = false) := by
  constructor
  · intro cause
    rw [← refusal?_eq_some_iff, l.refusal?_render flags built.isNamed kind, Option.map_eq_some_iff,
      Prod.exists]
  · intro file reason hmissing
    rw [l.file_of_missing_iff hmissing, Ne, l.obstacle?_ofArtifact_eq_none_iff, not_and_or,
      not_not, Bool.not_eq_true]

/-- Where there is no root for tests, the tests of the delete command are named themselves. -/
theorem order_tests_named :
    let l : Layout := { solution := "/sln", src := "/sln/src", test := "", project := "Shop" }
    ∃ e, (Draft.bare "Order" "Orders").build = .ok e ∧
      l.render e {} .deleteCommandTest = .error
        (.unresolvableName "Order" "DeleteOrderCommandTests.cs" "test directory is empty") := by
  intro l
  obtain ⟨e, build, hname, hmissing⟩ : ∃ e, (Draft.bare "Order" "Orders").build = .ok e ∧
      e.name = "Order" ∧ l.missing? e .deleteCommandTest =
        some ("DeleteOrderCommandTests.cs", "test directory is empty") :=
    exists_of_map_decide (by decide +kernel)
  refine ⟨e, build, ?_⟩
  obtain ⟨hrefusal, -⟩ := refusal_names_what_is_missing l (.draft build) {} .deleteCommandTest
  rw [hrefusal]
  exact ⟨_, _, hmissing, by rw [hname]⟩

/-- Where there is no root for sources, another file is named in place of the tests of the delete
command, and none in place of a faker. -/
theorem order_without_sources_misnamed :
    let l : Layout := { solution := "/sln", src := "", test := "/sln/tests", project := "Shop" }
    ∃ e, (Draft.bare "Order" "Orders").build = .ok e ∧
      (l.render e {} .deleteCommandTest = .error
        (.unresolvableName "Order" "DeleteOrder.cs" "src directory is empty") ∧
        "DeleteOrder.cs" ≠ ArtifactKind.deleteCommandTest.fileName e.name) ∧
      l.render e {} .entityFaker = .error
        (.unresolvableName "Order" "<namespace>" "src directory is empty") ∧
        "<namespace>" ≠ ArtifactKind.entityFaker.fileName e.name :=
  exists_of_map_decide (by decide +kernel)

end Scaffold
