/-
  Scaffold/Proofs/Layout/FileNames.lean
  =====================================
  **Which file names stay in their directory.**

  Resolving a file refuses a name with a separator, and every other name is put behind the
  directory. The directory ends in an identifier, so the name adds to it what it means as a single
  piece of a path (`Path.EndsPlain.components_join`). Two names without a separator do not name a
  file: `.` means nothing, so that the path is the directory itself, and `..` leads out of it again.
  Every other name stays. The check of the resolver leaves these two out.
-/
import Scaffold.Proofs.Entity.Built
import Scaffold.Proofs.Layout.Places

namespace Scaffold

/-- The folders that files of an entity are resolved in. Fakers may be those of a parent. -/
inductive Folder.Serves (e : Entity) : Folder → Prop
  | featureTests : Serves e (featureTests e)
  | unitTests : Serves e (unitTests e)
  | fakes {name : String} (identifier : Name.isIdentifier name = true) : Serves e (fakes name)
  | features : Serves e (features e)
  | entityClass : Serves e (entityClass e)
  | entityServices : Serves e (entityServices e)
  | dtos : Serves e (dtos e)
  | services : Serves e services
  | exceptions : Serves e exceptions

theorem Folder.Serves.isNamed {e : Entity} (he : e.IsNamed) {folder : Folder}
    (h : Folder.Serves e folder) : folder.IsNamed := by
  cases h with
  | featureTests => exact isNamed_featureTests he.plural
  | unitTests => exact isNamed_unitTests he.plural
  | fakes identifier => exact isNamed_fakes identifier
  | features => exact isNamed_features he.plural
  | entityClass => exact isNamed_entityClass he.plural
  | entityServices => exact isNamed_entityServices he.plural
  | dtos => exact isNamed_dtos he.plural
  | services => exact isNamed_services
  | exceptions => exact isNamed_exceptions

namespace Layout

variable {l : Layout} {e : Entity} {folder : Folder} {file : String} {p : ClassPath}

/-- The directory of a resolved file ends in a plain piece. -/
theorem endsPlain_directory (hnamed : folder.IsNamed) (h : l.resolve e folder file = .ok p) :
    Path.EndsPlain p.directory := by
  obtain ⟨hroot, segments, hne, hsegments, rfl⟩ := exists_plain_segments hnamed h
  exact Path.endsPlain_foldl_join hroot hne hsegments

theorem components_fullPath (hnamed : folder.IsNamed) (h : l.resolve e folder file = .ok p) :
    Path.components p.fullPath =
      Path.components p.directory ++ (Path.Component.ofPiece? file).toList := by
  have hends : Path.EndsPlain p.directory := endsPlain_directory hnamed h
  obtain ⟨-, hfile, segments, -, rfl⟩ := resolve_eq_ok_iff.mp h
  exact hends.components_join fun hmem => (hfile '/' hmem).1 rfl

/-- An accepted name that is neither empty nor one of the two is a single piece. -/
theorem isPlain_of_accepted (hne : file ≠ "") (hcurrent : file ≠ ".") (hup : file ≠ "..")
    (h : l.resolve e folder file = .ok p) : Path.IsPlain file := by
  obtain ⟨-, hfile, -⟩ := resolve_eq_ok_iff.mp h
  constructor
  · exact hne
  · exact hcurrent
  · exact hup
  · exact fun hmem => (hfile '/' hmem).1 rfl
  · exact fun hmem => (hfile '\\' hmem).2 rfl

end Layout

/-- **Which file names stay in their directory.** In each folder of an entity, the path of an
accepted file has the directory as its parent and the file as its last component, unless the file is
called `.` or `..`. The first of them is the directory itself, and the second leads out of it. -/
theorem accepted_file_stays_iff (l : Layout) {e : Entity} (built : e.Built) {folder : Folder}
    (serves : Folder.Serves e folder) {file : String} (given : file ≠ "") {p : ClassPath}
    (accepted : l.resolve e folder file = .ok p) :
    (Path.parent? p.fullPath = some p.directory ∧ Path.fileName? p.fullPath = some file ↔
      file ≠ "." ∧ file ≠ "..") ∧
    (file = "." → Path.components p.fullPath = Path.components p.directory) ∧
    (file = ".." → Path.components p.fullPath = Path.components p.directory ++ [.up]) := by
  have hnamed : folder.IsNamed := serves.isNamed built.isNamed
  have hpath := Layout.components_fullPath hnamed accepted
  have hself : file = "." → Path.components p.fullPath = Path.components p.directory := by
    rintro rfl
    rw [hpath]
    exact List.append_nil _
  have hout : file = ".." → Path.components p.fullPath = Path.components p.directory ++ [.up] := by
    rintro rfl
    exact hpath
  refine ⟨⟨?_, ?_⟩, hself, hout⟩
  · rintro ⟨-, hname⟩
    constructor
    · intro hcurrent
      -- the last component is that of the directory, and no folder is called `.`
      obtain ⟨front, folderName, hplain, hdirectory⟩ :=
        (Layout.endsPlain_directory hnamed accepted).exists_components
      rw [hdirectory] at hself
      rw [Path.fileName?_of_components (hself hcurrent)] at hname
      exact hplain.not_current ((Option.some.inj hname).trans hcurrent)
    · intro hup
      rw [Path.fileName?, hout hup, List.getLast?_concat] at hname
      cases hname
  · rintro ⟨hcurrent, hup⟩
    have hfile : Path.IsPlain file := Layout.isPlain_of_accepted given hcurrent hup accepted
    refine ⟨(Layout.isBelow_of_resolve hnamed hfile accepted).parent, ?_⟩
    rw [hfile.ofPiece?, Option.toList_some] at hpath
    exact Path.fileName?_of_components hpath

/-- A file of three dots among the fakers of a parent. -/
theorem three_dots_stay :
    let l := Layout.conventional "/sln" "Shop"
    ∃ e p, (Draft.bare "Order" "Orders").build = .ok e ∧
      Folder.Serves e (.fakes "Customer") ∧ "..." ≠ "" ∧
      l.resolve e (.fakes "Customer") "..." = .ok p ∧
      p.fullPath = "/sln/tests/Shop.SharedTestHelpers/Fakes/Customer/..." ∧
      Path.parent? p.fullPath = some p.directory ∧ Path.fileName? p.fullPath = some "..." := by
  intro l
  obtain ⟨e, build, hplace⟩ : ∃ e, (Draft.bare "Order" "Orders").build = .ok e ∧
      (l.resolve e (.fakes "Customer") "...").map (·.fullPath) =
        .ok "/sln/tests/Shop.SharedTestHelpers/Fakes/Customer/..." :=
    exists_of_map_decide (by decide +kernel)
  obtain ⟨p, accepted, hpath⟩ := map_eq_ok_iff.mp hplace
  have serves : Folder.Serves e (.fakes "Customer") := .fakes (by decide)
  obtain ⟨hstays, -⟩ := accepted_file_stays_iff l (.draft build) serves (by decide) accepted
  exact ⟨e, p, build, serves, by decide, accepted, hpath, hstays.mpr (by decide)⟩

/-- A file called `.` is accepted for the folder of the features and is that folder; one called `..`
is accepted too and is the folder above. -/
theorem dots_do_not_stay :
    let l := Layout.conventional "/sln" "Shop"
    ∃ e, (Draft.bare "Order" "Orders").build = .ok e ∧
      (∃ p, l.resolve e (.features e) "." = .ok p ∧
        Path.same p.fullPath p.directory = true ∧ Path.parent? p.fullPath ≠ some p.directory) ∧
      ∃ p, l.resolve e (.features e) ".." = .ok p ∧
        Path.components p.fullPath = Path.components p.directory ++ [.up] ∧
        Path.fileName? p.fullPath ≠ some ".." := by
  intro l
  obtain ⟨e, build, hself, hout⟩ : ∃ e, (Draft.bare "Order" "Orders").build = .ok e ∧
      (l.resolve e (.features e) ".").map (fun p => decide
        (Path.same p.fullPath p.directory = true ∧
          Path.parent? p.fullPath ≠ some p.directory)) = .ok true ∧
      (l.resolve e (.features e) "..").map (fun p => decide
        (Path.components p.fullPath = Path.components p.directory ++ [.up] ∧
          Path.fileName? p.fullPath ≠ some "..")) = .ok true :=
    exists_of_map_decide (by decide +kernel)
  exact ⟨e, build, exists_of_map_decide hself, exists_of_map_decide hout⟩

end Scaffold
