/-
  Scaffold/Proofs/Choice.lean
  ===========================
  **The first source that has a value decides.**

  A root of the layout comes from the first source that gives it (`Given.Provides`), and what the
  sources behind it say does not count (`Provides.of_agreesThrough`). Only a root that no source
  gives is made up: the solution is the directory of the manifest, the other two are below the
  solution (`Given.Chosen`). The name of the project comes from the first source that has one, else
  from the solution (`Given.Names`), and there is a layout exactly when that name is not blank.
-/
import Scaffold.Choice
import Scaffold.Proofs.Refusal

namespace Scaffold.Choice

/-- What the layout of a run is chosen from. -/
structure Given where
  options : CommandLine.GenerateOptions
  entry : ProjectSection
  settings : Settings
  /-- The directory of the manifest. -/
  directory : String
  deriving DecidableEq, Repr

/-- The sources that can give a root, in the order in which they are asked. -/
inductive Source
  | commandLine
  | manifest
  | settings
  deriving DecidableEq, Repr

namespace Given

variable (g : Given)

def layout : Except Problem Layout := Choice.layout g.options g.entry g.settings g.directory

def option? : Root → Option String
  | .solution => g.options.solution
  | .src => g.options.src
  | .test => g.options.test

def entry? : Root → Option String
  | .solution => g.entry.solution
  | .src => g.entry.src
  | .test => g.entry.test

def setting? : Root → Option String
  | .solution => g.settings.solution
  | .src => g.settings.src
  | .test => g.settings.test

/-! ### What is chosen -/

/-- The source is the first that gives the root, and this is the path that it gives. A path in the
manifest starts from the manifest's directory. -/
inductive Provides (r : Root) : Source → String → Prop
  | commandLine {path : String} (here : g.option? r = some path) : Provides r .commandLine path
  | manifest {path : String} (option : g.option? r = none) (here : g.entry? r = some path) :
      Provides r .manifest (Path.join g.directory path)
  | settings {path : String} (option : g.option? r = none) (entry : g.entry? r = none)
      (here : g.setting? r = some path) : Provides r .settings path

/-- No source gives the root. -/
structure Silent (r : Root) : Prop where
  option : g.option? r = none
  entry : g.entry? r = none
  setting : g.setting? r = none

/-- The path of a root: the one that is provided, else the one that is made up. -/
inductive Chosen : Root → String → Prop
  | provided {r : Root} {s : Source} {path : String} (h : g.Provides r s path) : Chosen r path
  | solution (silent : g.Silent .solution) : Chosen .solution g.directory
  | src {solution : String} (silent : g.Silent .src) (h : Chosen .solution solution) :
      Chosen .src (Path.join solution "src")
  | test {solution : String} (silent : g.Silent .test) (h : Chosen .solution solution) :
      Chosen .test (Path.join solution "tests")

/-- The first name that is given to the project, else the own name of the solution's directory. -/
inductive Names : String → Prop
  | commandLine {name : String} (here : g.options.project = some name) : Names name
  | manifest {name : String} (option : g.options.project = none)
      (here : g.entry.name = some name) : Names name
  | settings {name : String} (option : g.options.project = none) (entry : g.entry.name = none)
      (here : g.settings.project = some name) : Names name
  | solution {solution name : String} (option : g.options.project = none)
      (entry : g.entry.name = none) (setting : g.settings.project = none)
      (chosen : g.Chosen .solution solution) (here : Path.fileName? solution = some name) :
      Names name

/-- The layout has the chosen roots and the name of the project, which is not blank. -/
structure Chooses (l : Layout) : Prop where
  roots : ∀ r, g.Chosen r (r.path l)
  project : g.Names l.project
  not_blank : Text.isBlank l.project = false

/-! ### Two runs -/

variable (h : Given)

/-- Two runs are given the same for a root by a source and by those that are asked before it. The
directory of the manifest counts for a relative path in the manifest. -/
inductive AgreesThrough (r : Root) : Source → Prop
  | commandLine (option : h.option? r = g.option? r) : AgreesThrough r .commandLine
  | manifest (option : h.option? r = g.option? r) (entry : h.entry? r = g.entry? r)
      (directory : h.directory = g.directory ∨
        ∀ path, g.entry? r = some path → Path.isAbsolute path = true) :
      AgreesThrough r .manifest
  | settings (option : h.option? r = g.option? r) (entry : h.entry? r = g.entry? r)
      (setting : h.setting? r = g.setting? r) : AgreesThrough r .settings

/-- Two runs are given the same for a root. They may differ in all else. -/
structure Alike (r : Root) : Prop where
  option : h.option? r = g.option? r
  entry : h.entry? r = g.entry? r
  setting : h.setting? r = g.setting? r
  directory : h.directory = g.directory

/-! ### How it is chosen -/

/-- The path that the sources give for a root. -/
def given? (r : Root) : Option String :=
  root? g.directory (g.option? r) (g.entry? r) (g.setting? r)

def solution : String := (g.given? .solution).getD g.directory

/-- The path that is made up for a root. -/
def fallback : Root → String
  | .solution => g.directory
  | .src => Path.join g.solution "src"
  | .test => Path.join g.solution "tests"

def root (r : Root) : String := (g.given? r).getD (g.fallback r)

/-- The name of the project, blank or not. -/
def name? : Option String :=
  ((g.options.project.or g.entry.name).or g.settings.project).or (Path.fileName? g.solution)

variable {g h} {r : Root} {s : Source} {path : String}

theorem given?_eq_some_iff : g.given? r = some path ↔ ∃ s, g.Provides r s path := by
  unfold given? root?
  constructor
  · intro hgiven
    cases hoption : g.option? r with
    | some found =>
      rw [hoption] at hgiven
      cases hgiven
      exact ⟨_, .commandLine hoption⟩
    | none =>
      cases hentry : g.entry? r with
      | some found =>
        rw [hoption, hentry] at hgiven
        cases hgiven
        exact ⟨_, .manifest hoption hentry⟩
      | none =>
        rw [hoption, hentry] at hgiven
        exact ⟨_, .settings hoption hentry hgiven⟩
  · rintro ⟨s, hprovides⟩
    cases hprovides with
    | commandLine here => rw [here]; rfl
    | manifest option here => rw [option, here]; rfl
    | settings option entry here => rw [option, entry, here]; rfl

theorem given?_eq_none_iff : g.given? r = none ↔ g.Silent r := by
  unfold given? root?
  constructor
  · intro hnone
    obtain ⟨hfirst, hsetting⟩ := Option.or_eq_none_iff.mp hnone
    obtain ⟨hoption, hentry⟩ := Option.or_eq_none_iff.mp hfirst
    exact ⟨hoption, Option.map_eq_none_iff.mp hentry, hsetting⟩
  · rintro ⟨hoption, hentry, hsetting⟩
    rw [hoption, hentry, hsetting]
    rfl

theorem root_of_provides (hprovides : g.Provides r s path) : g.root r = path := by
  rw [root, given?_eq_some_iff.mpr ⟨s, hprovides⟩, Option.getD_some]

theorem root_of_silent (hsilent : g.Silent r) : g.root r = g.fallback r := by
  rw [root, given?_eq_none_iff.mpr hsilent, Option.getD_none]

theorem chosen_iff : g.Chosen r path ↔ path = g.root r := by
  constructor
  · intro hchosen
    induction hchosen with
    | provided hprovides => exact (root_of_provides hprovides).symm
    | solution silent => exact (root_of_silent silent).symm
    | src silent _ ih => rw [root_of_silent silent, ih]; rfl
    | test silent _ ih => rw [root_of_silent silent, ih]; rfl
  · rintro rfl
    have hsolution : g.Chosen .solution g.solution := by
      cases hgiven : g.given? .solution with
      | some path =>
        obtain ⟨s, hprovides⟩ := given?_eq_some_iff.mp hgiven
        rw [solution, hgiven, Option.getD_some]
        exact .provided hprovides
      | none =>
        rw [solution, hgiven, Option.getD_none]
        exact .solution (given?_eq_none_iff.mp hgiven)
    cases hgiven : g.given? r with
    | some path =>
      obtain ⟨s, hprovides⟩ := given?_eq_some_iff.mp hgiven
      rw [root_of_provides hprovides]
      exact .provided hprovides
    | none =>
      have hsilent : g.Silent r := given?_eq_none_iff.mp hgiven
      rw [root_of_silent hsilent]
      cases r with
      | solution => exact .solution hsilent
      | src => exact .src hsilent hsolution
      | test => exact .test hsilent hsolution

/-! ### The name of the project -/

theorem names_iff {name : String} : g.Names name ↔ g.name? = some name := by
  have hchosen : ∀ solution, g.Chosen .solution solution ↔ solution = g.solution :=
    fun _ => chosen_iff
  unfold name?
  constructor
  · intro hname
    cases hname with
    | commandLine here => rw [here]; rfl
    | manifest option here => rw [option, here]; rfl
    | settings option entry here => rw [option, entry, here]; rfl
    | solution option entry setting chosen here =>
      rw [option, entry, setting, ← (hchosen _).mp chosen, here]
      rfl
  · intro hname
    cases hoption : g.options.project with
    | some found =>
      rw [hoption] at hname
      cases hname
      exact .commandLine hoption
    | none =>
      cases hentry : g.entry.name with
      | some found =>
        rw [hoption, hentry] at hname
        cases hname
        exact .manifest hoption hentry
      | none =>
        cases hsetting : g.settings.project with
        | some found =>
          rw [hoption, hentry, hsetting] at hname
          cases hname
          exact .settings hoption hentry hsetting
        | none =>
          rw [hoption, hentry, hsetting] at hname
          exact .solution hoption hentry hsetting ((hchosen _).mpr rfl) hname

/-! ### The layout -/

/-- The layout of a project of this name. -/
def named (name : String) : Layout :=
  { solution := g.root .solution, src := g.root .src, test := g.root .test, project := name }

theorem path_named (name : String) : r.path (g.named name) = g.root r := by
  cases r <;> rfl

variable (g) in
theorem layout_eq : g.layout =
    (project g.solution g.options.project g.entry.name g.settings.project).map g.named := rfl

theorem layout_of_nameless (hname : g.name? = none) : g.layout = .error noProject := by
  unfold name? at hname
  rw [layout_eq, project, hname]
  rfl

theorem layout_of_blank {name : String} (hname : g.name? = some name)
    (hblank : Text.isBlank name = true) : g.layout = .error noProject := by
  unfold name? at hname
  rw [layout_eq, project, hname]
  simp only [hblank, if_true, Except.map]

theorem layout_of_name {name : String} (hname : g.name? = some name)
    (hblank : Text.isBlank name = false) : g.layout = .ok (g.named name) := by
  unfold name? at hname
  rw [layout_eq, project, hname]
  simp only [hblank, Bool.false_eq_true, if_false, Except.map]

theorem chooses_named {name : String} (hname : g.name? = some name)
    (hblank : Text.isBlank name = false) : g.Chooses (g.named name) where
  roots _ := chosen_iff.mpr (path_named name)
  project := names_iff.mpr hname
  not_blank := hblank

theorem Chooses.name? {l : Layout} (hchooses : g.Chooses l) : g.name? = some l.project :=
  names_iff.mp hchooses.project

theorem Chooses.path_eq {l : Layout} (hchooses : g.Chooses l) (r : Root) : r.path l = g.root r :=
  chosen_iff.mp (hchooses.roots r)

theorem Chooses.eq_named {l : Layout} (hchooses : g.Chooses l) : l = g.named l.project := by
  obtain ⟨solution, src, test, project⟩ := l
  have hsolution : solution = g.root .solution := hchooses.path_eq .solution
  have hsrc : src = g.root .src := hchooses.path_eq .src
  have htest : test = g.root .test := hchooses.path_eq .test
  rw [named, ← hsolution, ← hsrc, ← htest]

theorem layout_eq_ok_iff {l : Layout} : g.layout = .ok l ↔ g.Chooses l := by
  constructor
  · intro hlayout
    cases hname : g.name? with
    | none =>
      rw [layout_of_nameless hname] at hlayout
      cases hlayout
    | some name =>
      cases hblank : Text.isBlank name with
      | true =>
        rw [layout_of_blank hname hblank] at hlayout
        cases hlayout
      | false =>
        rw [layout_of_name hname hblank] at hlayout
        cases hlayout
        exact chooses_named hname hblank
  · intro hchooses
    rw [layout_of_name hchooses.name? hchooses.not_blank, ← hchooses.eq_named]

theorem layout_eq_error_iff {problem : Problem} : g.layout = .error problem ↔
    problem = noProject ∧ ∀ name, g.Names name → Text.isBlank name = true := by
  have hrefusal : (.error noProject : Except Problem Layout) = .error problem ↔
      problem = noProject := by
    rw [Except.error.injEq, eq_comm]
  simp only [names_iff]
  cases hname : g.name? with
  | none => simp [layout_of_nameless hname, hrefusal]
  | some name =>
    cases hblank : Text.isBlank name with
    | true => simp [layout_of_blank hname hblank, hrefusal, hblank]
    | false => simp [layout_of_name hname hblank, hblank]

/-! ### Two runs -/

/-- What comes after the source that provides a root does not change what it provides. -/
theorem Provides.of_agreesThrough (hprovides : g.Provides r s path)
    (hagrees : g.AgreesThrough h r s) : h.Provides r s path := by
  cases hprovides with
  | commandLine here =>
    obtain ⟨option⟩ := hagrees
    exact .commandLine (option.trans here)
  | @manifest written option here =>
    obtain _ | ⟨hoption, hentry, hdirectory⟩ := hagrees
    have hjoin : Path.join g.directory written = Path.join h.directory written := by
      rcases hdirectory with hsame | habsolute
      · rw [hsame]
      · unfold Path.join
        rw [if_pos (habsolute written here), if_pos (habsolute written here)]
    rw [hjoin]
    exact .manifest (hoption.trans option) (hentry.trans here)
  | settings option entry here =>
    obtain _ | _ | ⟨hoption, hentry, hsetting⟩ := hagrees
    exact .settings (hoption.trans option) (hentry.trans entry) (hsetting.trans here)

theorem Alike.agreesThrough (halike : g.Alike h r) : g.AgreesThrough h r s := by
  cases s with
  | commandLine => exact .commandLine halike.option
  | manifest => exact .manifest halike.option halike.entry (.inl halike.directory)
  | settings => exact .settings halike.option halike.entry halike.setting

theorem exists_provides (hspoken : ¬ g.Silent r) : ∃ s path, g.Provides r s path := by
  cases hgiven : g.given? r with
  | some path =>
    obtain ⟨s, hprovides⟩ := given?_eq_some_iff.mp hgiven
    exact ⟨s, path, hprovides⟩
  | none => exact absurd (given?_eq_none_iff.mp hgiven) hspoken

end Given

open Given

/-- A run has a layout when the first name that is given to its project is not blank, and then every
root of it is the chosen one. Whatever two runs are given behind the source that provides a root in
one of them, they have that root in common; a root that is provided does not depend on the solution
either. -/
theorem layout_respects_priority (g : Given) :
    (∀ l, g.layout = .ok l ↔ g.Chooses l) ∧
    (∀ problem, g.layout = .error problem ↔
      problem = noProject ∧ ∀ name, g.Names name → Text.isBlank name = true) ∧
    noProject.severity = .usage ∧
    ∀ l, g.layout = .ok l →
      (g.Silent .solution → l.solution = g.directory) ∧
      (g.Silent .src → l.src = Path.join l.solution "src") ∧
      (g.Silent .test → l.test = Path.join l.solution "tests") ∧
      ∀ (h : Given) (m : Layout), h.layout = .ok m → ∀ r,
        (∀ s path, g.Provides r s path → g.AgreesThrough h r s →
          r.path l = path ∧ r.path m = path) ∧
        (¬ g.Silent r → g.Alike h r → r.path l = r.path m) := by
  refine ⟨fun _ => layout_eq_ok_iff, fun _ => layout_eq_error_iff, rfl, fun l hl => ?_⟩
  have hchooses : g.Chooses l := layout_eq_ok_iff.mp hl
  have hprovided : ∀ (h : Given) (m : Layout), h.layout = .ok m → ∀ r s path,
      g.Provides r s path → g.AgreesThrough h r s → r.path l = path ∧ r.path m = path := by
    intro h m hm r s path hprovides hagrees
    rw [hchooses.path_eq, (layout_eq_ok_iff.mp hm).path_eq]
    exact ⟨root_of_provides hprovides, root_of_provides (hprovides.of_agreesThrough hagrees)⟩
  refine ⟨fun hsilent => ?_, fun hsilent => ?_, fun hsilent => ?_, fun h m hm r => ?_⟩
  · exact (hchooses.path_eq .solution).trans (root_of_silent hsilent)
  · rw [show l.solution = g.solution from hchooses.path_eq .solution]
    exact (hchooses.path_eq .src).trans (root_of_silent hsilent)
  · rw [show l.solution = g.solution from hchooses.path_eq .solution]
    exact (hchooses.path_eq .test).trans (root_of_silent hsilent)
  · refine ⟨hprovided h m hm r, fun hspoken halike => ?_⟩
    obtain ⟨s, path, hprovides⟩ := exists_provides hspoken
    obtain ⟨hl, hm⟩ := hprovided h m hm r s path hprovides halike.agreesThrough
    rw [hl, hm]

/-- The manifest gives the sources, so another solution and other settings leave them where they
are. -/
theorem sources_of_manifest_kept :
    let entry : ProjectSection := { src := some "code", name := some "Shop" }
    let g : Given := ⟨{ manifest := "/work/shop.toml" }, entry, {}, "/work"⟩
    let h : Given :=
      ⟨{ manifest := "/work/shop.toml", solution := some "/flag" }, entry,
        { src := some "/settings", test := some "/checks" }, "/work"⟩
    let l : Layout :=
      { solution := "/work", src := "/work/code", test := "/work/tests", project := "Shop" }
    let m : Layout :=
      { solution := "/flag", src := "/work/code", test := "/checks", project := "Shop" }
    g.layout = .ok l ∧ h.layout = .ok m ∧ g.Provides .src .manifest "/work/code" ∧
      g.AgreesThrough h .src .manifest ∧ (l.src = "/work/code" ∧ m.src = "/work/code") := by
  intro entry g h l m
  have hl : g.layout = .ok l := by decide +kernel
  have hm : h.layout = .ok m := by decide +kernel
  have hprovides : g.Provides .src .manifest (Path.join "/work" "code") := .manifest rfl rfl
  have hagrees : g.AgreesThrough h .src .manifest := .manifest rfl rfl (.inl rfl)
  have hpath : Path.join "/work" "code" = "/work/code" := by decide +kernel
  rw [hpath] at hprovides
  obtain ⟨-, -, -, hruns⟩ := layout_respects_priority g
  obtain ⟨-, -, -, htwo⟩ := hruns l hl
  obtain ⟨hkept, -⟩ := htwo h m hm .src
  exact ⟨hl, hm, hprovides, hagrees, hkept .manifest "/work/code" hprovides hagrees⟩

end Scaffold.Choice
