/-
  Scaffold/Proofs/Store/Log.lean
  ==============================
  **A store is what its log says.**

  The log of a store is the list of the requests that were made of it, through whichever handle. It
  settles every answer (`Store.Log.Answers`): a text is that of the last write to the same path, a
  directory is there when it, or something below it, was asked for, and all that happened before the
  store was last cleared is forgotten. A store follows its log (`Store.Follows`) whatever is asked
  of it, and so does every store of a session (`Session.refines_log`).
-/
import Scaffold.Proofs.Path
import Scaffold.Proofs.Store.Order
import Scaffold.Store.Session

namespace Scaffold

/-! ### Prefixes of paths -/

namespace Path

/-- Only the empty text has no components. -/
theorem components_eq_nil_iff {path : String} : components path = [] ↔ path = "" := by
  constructor
  · intro hnil
    by_contra hpath
    obtain ⟨first, rest, hsplit⟩ := List.exists_cons_of_ne_nil (Text.splitOn_ne_nil '/' path)
    have hroot : first ≠ "" ∨ rest ≠ [] := by
      by_contra hboth
      obtain ⟨rfl, rfl⟩ : first = "" ∧ rest = [] := by simpa using hboth
      exact splitOn_ne_root hpath hsplit
    rw [components_eq, hsplit] at hnil
    unfold meaning at hnil
    split at hnil
    · cases hnil
    · cases hnil
    · next habsolute hcurrent =>
      -- the first piece is neither empty nor a dot, so it has a component
      have hempty : first ≠ "" := by
        rintro rfl
        obtain ⟨next, others, rfl⟩ := List.exists_cons_of_ne_nil (hroot.resolve_left (by simp))
        exact habsolute next others rfl
      have hdot : first ≠ "." := by
        rintro rfl
        exact hcurrent rest rfl
      have hpiece := List.filterMap_eq_nil_iff.mp hnil first List.mem_cons_self
      unfold Component.ofPiece? isIdle at hpiece
      split at hpiece
      · next hidle => simp [hempty, hdot] at hidle
      · split at hpiece <;> cases hpiece
  · rintro rfl
    decide

end Path

namespace Store

theorem mem_lineage_iff {cs ds : List Path.Component} : cs ∈ lineage ds ↔ cs ≠ [] ∧ cs <+: ds := by
  induction ds generalizing cs with
  | nil => simp [lineage, and_comm]
  | cons d ds ih =>
    cases cs with
    | nil => simp [lineage]
    | cons c cs =>
      simp only [lineage, List.mem_cons, List.mem_map, ih, List.cons_prefix_cons]
      constructor
      · rintro (heq | ⟨rest, ⟨-, hrest⟩, heq⟩)
        · obtain ⟨rfl, rfl⟩ := List.cons.inj heq
          exact ⟨List.cons_ne_nil _ _, rfl, List.nil_prefix⟩
        · obtain ⟨rfl, rfl⟩ := List.cons.inj heq
          exact ⟨List.cons_ne_nil _ _, rfl, hrest⟩
      · rintro ⟨-, rfl, hrest⟩
        by_cases hnil : cs = []
        · exact .inl (by rw [hnil])
        · exact .inr ⟨cs, ⟨hnil, hrest⟩, rfl⟩

theorem serve_write (s : Store) (path content : String) :
    s.serve (.write path content) =
      if s.accepts path = true then
        (.done, { s with files := insertFile path content s.files, writes := s.writes + 1 })
      else (.refused (.emissionFailed path "Parent directory does not exist"), s) := by
  simp only [serve, write]
  by_cases haccepts : s.accepts path = true
  · simp only [if_pos haccepts]
  · simp only [if_neg haccepts]

/-! ### Logs -/

/-- The requests that were made of a store, the last of them first. -/
abbrev Log := List Request

namespace Log

/-- The directories that were asked for since the store was last cleared. -/
def directories : Log → List String
  | [] => []
  | .clear :: _ => []
  | .createDirectories path :: earlier => path :: directories earlier
  | _ :: earlier => directories earlier

variable (log : Log)

/-- A directory at or below the path was asked for. -/
def Covers (path : String) : Prop :=
  ∃ directory ∈ log.directories, Path.components path <+: Path.components directory

instance (path : String) : Decidable (log.Covers path) :=
  inferInstanceAs (Decidable (∃ directory ∈ log.directories, _))

/-- A file can be written at the path: it has no parent, an empty one, or one that is covered. -/
def Permits (path : String) : Prop := ∀ parent ∈ Path.parent? path, parent = "" ∨ log.Covers parent

instance (path : String) : Decidable (log.Permits path) :=
  inferInstanceAs (Decidable (∀ parent ∈ Path.parent? path, _))

/-- What was written since the store was last cleared, the last of it first. A write that is not
permitted writes nothing. -/
def written : Log → List StoredFile
  | [] => []
  | .clear :: _ => []
  | .write path content :: earlier =>
    if Permits earlier path then ⟨path, content⟩ :: written earlier else written earlier
  | _ :: earlier => written earlier

/-- How a path was first written. -/
def spelling? (path : String) : Option String :=
  (log.written.reverse.find? (Path.same ·.path path)).map (·.path)

/-- The answers that the log allows. -/
inductive Answers : Request → Answer → Prop
  | createDirectories (path : String) : Answers (.createDirectories path) .done
  | written {path content : String} (permitted : log.Permits path) :
      Answers (.write path content) .done
  | refused {path content : String} (denied : ¬ log.Permits path) :
      Answers (.write path content)
        (.refused (.emissionFailed path "Parent directory does not exist"))
  | held {path : String} {there : Bool}
      (iff : there = true ↔ (∃ file ∈ log.written, Path.same file.path path = true) ∨
        Path.components path ≠ [] ∧ log.Covers path) :
      Answers (.holds path) (.held there)
  | text (path : String) : Answers (.read path) (.text (textAt log.written path))
  | paths {all : List String} (increasing : all.Pairwise Path.Before)
      (spellings : ∀ path, path ∈ all ↔ log.spelling? path = some path) :
      Answers .paths (.paths all)
  | count : Answers .writes (.count log.written.length)
  | cleared : Answers .clear .done

variable {log}

/-- **The log leaves no choice**: it allows one answer to every request. -/
theorem Answers.unique {request : Request} {answer other : Answer} (h : log.Answers request answer)
    (h' : log.Answers request other) : answer = other := by
  cases h with
  | createDirectories => cases h'; rfl
  | written permitted =>
    cases h' with
    | written => rfl
    | refused denied => exact absurd permitted denied
  | refused denied =>
    cases h' with
    | written permitted => exact absurd permitted denied
    | refused => rfl
  | held iff =>
    cases h' with
    | held iff' => rw [Bool.eq_iff_iff.mpr (iff.trans iff'.symm)]
  | text => cases h'; rfl
  | paths increasing spellings =>
    cases h' with
    | paths increasing' spellings' =>
      have : Std.Irrefl Path.Before := ⟨fun p hp => hp.asymm hp⟩
      have : Std.Antisymm Path.Before := ⟨fun p q hp hq => absurd hq hp.asymm⟩
      have hmem := fun path => (spellings path).trans (spellings' path).symm
      rw [List.Pairwise.eq_of_mem_iff increasing increasing' hmem]
  | count => cases h'; rfl
  | cleared => cases h'; rfl

theorem directories_of_isQuestion {request : Request} (h : request.isQuestion = true) :
    directories (request :: log) = log.directories := by
  cases request <;> first | rfl | cases h

theorem written_of_isQuestion {request : Request} (h : request.isQuestion = true) :
    written (request :: log) = log.written := by
  cases request <;> first | rfl | cases h

theorem spelling?_eq_none_iff {path : String} :
    log.spelling? path = none ↔ textAt log.written path = none := by
  rw [textAt_eq_none_iff]
  simp [spelling?]

/-- A further write is how a path was first written only when there was none before. -/
theorem spelling?_write {path content query : String} (permitted : log.Permits path) :
    spelling? (.write path content :: log) query =
      (log.spelling? query).or (if Path.same path query then some path else none) := by
  have hwritten : written (.write path content :: log) = ⟨path, content⟩ :: log.written :=
    if_pos permitted
  unfold spelling?
  rw [hwritten, List.reverse_cons, List.find?_append, Option.map_or]
  congr 1
  by_cases hsame : Path.same path query = true
  · simp [hsame]
  · simp [hsame]

end Log

/-! ### Following a log -/

/-- The store is as its log says. -/
structure Follows (s : Store) (log : Log) : Prop where
  directories (cs : List Path.Component) : cs ∈ s.directories ↔
    cs ≠ [] ∧ ∃ directory ∈ log.directories, cs <+: Path.components directory
  texts (path : String) : textAt s.files path = textAt log.written path
  ordered : Ordered s.files
  spellings (path : String) : path ∈ s.paths ↔ log.spelling? path = some path
  writes : s.writes = log.written.length

namespace Follows

variable {s : Store} {log : Log}

theorem hasDirectory_iff (h : Follows s log) {path : String} :
    s.hasDirectory path = true ↔ Path.components path ≠ [] ∧ log.Covers path := by
  rw [hasDirectory, List.contains_iff_mem]
  exact h.directories (Path.components path)

theorem accepts_iff (h : Follows s log) {path : String} :
    s.accepts path = true ↔ log.Permits path := by
  unfold accepts Log.Permits
  cases hparent : Path.parent? path with
  | none => simp
  | some parent =>
    by_cases hempty : parent = ""
    · simp [hempty]
    · have hcomponents : Path.components parent ≠ [] := mt Path.components_eq_nil_iff.mp hempty
      simp [hempty, h.hasDirectory_iff, hcomponents]

theorem holds_iff (h : Follows s log) {path : String} :
    s.holds path = true ↔ (∃ file ∈ log.written, Path.same file.path path = true) ∨
      Path.components path ≠ [] ∧ log.Covers path := by
  have hfind : (s.find? path).isSome = (textAt log.written path).isSome := by
    rw [← h.texts path]
    exact (Option.isSome_map).symm
  have hwritten : (textAt log.written path).isSome = true ↔
      ∃ file ∈ log.written, Path.same file.path path = true := by
    simp [textAt]
  rw [holds, Bool.or_eq_true, hfind, hwritten, h.hasDirectory_iff]

theorem empty : Follows ∅ [] where
  directories cs := by simp [EmptyCollection.emptyCollection, Store.empty, Log.directories]
  texts _ := rfl
  ordered := List.Pairwise.nil
  spellings path := by
    simp [EmptyCollection.emptyCollection, Store.empty, paths, Log.spelling?, Log.written]
  writes := rfl

/-! Each request keeps a store in step with its log. -/

theorem question (h : Follows s log) {request : Request} (hquestion : request.isQuestion = true) :
    Follows s (request :: log) := by
  have hspelling : Log.spelling? (request :: log) = log.spelling? := by
    funext path
    unfold Log.spelling?
    rw [Log.written_of_isQuestion hquestion]
  constructor
  · rw [Log.directories_of_isQuestion hquestion]
    exact h.directories
  · rw [Log.written_of_isQuestion hquestion]
    exact h.texts
  · exact h.ordered
  · rw [hspelling]
    exact h.spellings
  · rw [Log.written_of_isQuestion hquestion]
    exact h.writes

theorem createDirectories (h : Follows s log) (path : String) :
    Follows (s.createDirectories path) (.createDirectories path :: log) where
  directories cs := by
    have hmade : Log.directories (.createDirectories path :: log) = path :: log.directories := rfl
    rw [hmade, List.exists_mem_cons_iff, and_or_left, ← h.directories cs, ← mem_lineage_iff]
    exact List.mem_append
  texts := h.texts
  ordered := h.ordered
  spellings := h.spellings
  writes := h.writes

theorem refused (h : Follows s log) {path : String} (denied : ¬ log.Permits path)
    (content : String) : Follows s (.write path content :: log) := by
  have hwritten : Log.written (.write path content :: log) = log.written := if_neg denied
  have hspelling : Log.spelling? (.write path content :: log) = log.spelling? := by
    funext query
    unfold Log.spelling?
    rw [hwritten]
  constructor
  · exact h.directories
  · rw [hwritten]
    exact h.texts
  · exact h.ordered
  · rw [hspelling]
    exact h.spellings
  · rw [hwritten]
    exact h.writes

/-- The paths after a write: a new one is added as it is spelled, a known one keeps its spelling. -/
theorem mem_paths_insertFile (h : Follows s log) {path query : String} (content : String) :
    query ∈ (insertFile path content s.files).map (·.path) ↔
      query ∈ s.paths ∨ log.spelling? path = none ∧ query = path := by
  rw [Log.spelling?_eq_none_iff, ← h.texts path]
  by_cases hnew : textAt s.files path = none
  · have hother : ∀ file ∈ s.files,
        Path.same path file.path = true → file = ⟨path, content⟩ := by
      intro file hfile hsame
      have hnot := textAt_eq_none_iff.mp hnew file hfile
      rw [Path.same, Bool.beq_comm, ← Path.same] at hnot
      rw [hnot] at hsame
      cases hsame
    simp only [List.mem_map, mem_insertFile_iff hother, paths, hnew, true_and]
    constructor
    · rintro ⟨file, rfl | hfile, rfl⟩
      · exact .inr rfl
      · exact .inl ⟨file, hfile, rfl⟩
    · rintro (⟨file, hfile, rfl⟩ | rfl)
      · exact ⟨file, .inr hfile, rfl⟩
      · exact ⟨⟨query, content⟩, .inl rfl, rfl⟩
  · rw [map_path_insertFile h.ordered hnew content]
    simp [paths, hnew]

theorem written (h : Follows s log) {path : String} (permitted : log.Permits path)
    (content : String) :
    Follows { s with files := insertFile path content s.files, writes := s.writes + 1 }
      (.write path content :: log) := by
  have hwritten : Log.written (.write path content :: log) = ⟨path, content⟩ :: log.written :=
    if_pos permitted
  constructor
  · exact h.directories
  · intro query
    rw [hwritten, textAt_cons, textAt_insertFile, h.texts]
  · exact h.ordered.insertFile path content
  · intro query
    rw [Log.spelling?_write permitted, paths, h.mem_paths_insertFile content, h.spellings query]
    by_cases hquery : query = path
    · subst hquery
      cases log.spelling? query <;> simp [Path.same_self]
    · cases log.spelling? query with
      | some spelling => simp [hquery]
      | none => simp [hquery, Ne.symm hquery]
  · rw [hwritten, List.length_cons, h.writes]

theorem cleared (log : Log) : Follows ∅ (.clear :: log) :=
  -- a cleared store is as one that nothing was asked of
  ⟨empty.directories, empty.texts, empty.ordered, empty.spellings, empty.writes⟩

/-- **One request keeps a store in step with its log.** -/
theorem serve (h : Follows s log) (request : Request) :
    Follows (s.serve request).2 (request :: log) := by
  cases request with
  | createDirectories path => exact h.createDirectories path
  | write path content =>
    rw [serve_write]
    split
    · next accepted => exact h.written (h.accepts_iff.mp accepted) content
    · next denied => exact h.refused (mt h.accepts_iff.mpr denied) content
  | holds path => exact h.question rfl
  | read path => exact h.question rfl
  | paths => exact h.question rfl
  | writes => exact h.question rfl
  | clear => exact cleared log

/-- A store in step with its log gives the answers that the log allows. -/
theorem answers (h : Follows s log) (request : Request) :
    log.Answers request (s.serve request).1 := by
  cases request with
  | createDirectories path => exact .createDirectories path
  | write path content =>
    rw [serve_write]
    split
    · next accepted => exact .written (h.accepts_iff.mp accepted)
    · next denied => exact .refused (mt h.accepts_iff.mpr denied)
  | holds path => exact .held h.holds_iff
  | read path =>
    have htext : (s.serve (.read path)).1 = .text (textAt log.written path) :=
      congrArg Answer.text (h.texts path)
    rw [htext]
    exact .text path
  | paths => exact .paths (List.pairwise_map.mpr h.ordered) h.spellings
  | writes =>
    have hcount : (s.serve .writes).1 = .count log.written.length := congrArg Answer.count h.writes
    rw [hcount]
    exact .count
  | clear => exact .cleared

end Follows

/-- A request that asks a question or is refused leaves the store as it is. -/
theorem serve_eq_self (s : Store) {request : Request}
    (h : request.isQuestion = true ∨ ∃ failure, (s.serve request).1 = .refused failure) :
    (s.serve request).2 = s := by
  cases request with
  | createDirectories path => simp [Request.isQuestion, serve] at h
  | write path content =>
    rw [serve_write] at h ⊢
    cases haccepts : s.accepts path with
    | false => rfl
    | true => simp [Request.isQuestion, haccepts] at h
  | holds path => rfl
  | read path => rfl
  | paths => rfl
  | writes => rfl
  | clear => simp [Request.isQuestion, serve] at h

end Store

/-! ### Sessions -/

namespace Session

open Store (Request Answer Log Follows)

/-- The requests that were made of the store at a place, through whichever handle. -/
def log (place : Nat) : List Event → Log
  | [] => []
  | .request handle request :: earlier =>
    if (after earlier).handles[handle]? = some place then request :: log place earlier
    else log place earlier
  | _ :: earlier => log place earlier

/-- Every handle is for a store of the session, and every store is in step with its log. -/
structure Sound (events : List Event) : Prop where
  handles : ∀ place ∈ (after events).handles, place < (after events).stores.length
  follows : ∀ place s, (after events).stores[place]? = some s → Follows s (log place events)
  unused : ∀ place, (after events).stores.length ≤ place → log place events = []

theorem serve_eq {session : Session} {handle place : Nat} {s : Store}
    (hplace : session.handles[handle]? = some place) (hstore : session.stores[place]? = some s)
    (request : Request) :
    session.serve handle request = some ((s.serve request).1,
      { session with stores := session.stores.set place (s.serve request).2 }) := by
  simp [serve, hplace, hstore]

namespace Sound

variable {events : List Event}

theorem exists_store (h : Sound events) {handle place : Nat}
    (hplace : (after events).handles[handle]? = some place) :
    ∃ s, (after events).stores[place]? = some s :=
  ⟨_, List.getElem?_eq_getElem (h.handles place (List.mem_of_getElem? hplace))⟩

theorem nil : Sound [] where
  handles place hplace := absurd hplace List.not_mem_nil
  follows place s hs := by simp [after] at hs
  unused _ _ := rfl

theorem create (h : Sound events) : Sound (.create :: events) where
  handles place hplace := by
    simp only [after, step, List.mem_append, List.mem_singleton, List.length_append,
      List.length_singleton] at hplace ⊢
    rcases hplace with hold | rfl
    · exact Nat.lt_succ_of_lt (h.handles place hold)
    · exact Nat.lt_succ_self _
  follows place s hs := by
    have hlog : log place (.create :: events) = log place events := rfl
    simp only [after, step] at hs
    rw [hlog]
    by_cases hold : place < (after events).stores.length
    · rw [List.getElem?_append_left hold] at hs
      exact h.follows place s hs
    · rw [List.getElem?_append_right (Nat.le_of_not_lt hold)] at hs
      have hempty : s = ∅ := (List.mem_singleton.mp (List.mem_of_getElem? hs))
      rw [h.unused place (Nat.le_of_not_lt hold), hempty]
      exact Follows.empty
  unused place hplace := by
    simp only [after, step, List.length_append, List.length_singleton] at hplace
    exact h.unused place (Nat.le_of_succ_le hplace)

theorem clone (h : Sound events) (handle : Nat) : Sound (.clone handle :: events) where
  handles place hplace := by
    simp only [after, step, List.mem_append, Option.mem_toList] at hplace ⊢
    rcases hplace with hold | hcloned
    · exact h.handles place hold
    · exact h.handles place (List.mem_of_getElem? hcloned)
  follows := h.follows
  unused := h.unused

theorem request (h : Sound events) (handle : Nat) (request : Request) :
    Sound (.request handle request :: events) := by
  cases hplace : (after events).handles[handle]? with
  | none =>
    have hafter : after (.request handle request :: events) = after events := by
      simp [after, step, serve, hplace]
    have hlog : ∀ place, log place (.request handle request :: events) = log place events := by
      intro place
      exact if_neg (by simp [hplace])
    constructor
    · rw [hafter]
      exact h.handles
    · intro place s hs
      rw [hlog]
      exact h.follows place s (hafter ▸ hs)
    · intro place hlen
      rw [hlog]
      exact h.unused place (hafter ▸ hlen)
  | some asked =>
    obtain ⟨s, hs⟩ := h.exists_store hplace
    have hafter : after (.request handle request :: events) = { after events with
        stores := (after events).stores.set asked (s.serve request).2 } := by
      rw [after, step, serve_eq hplace hs]
      rfl
    have hlog : ∀ place, log place (.request handle request :: events) =
        if place = asked then request :: log place events else log place events := by
      intro place
      simp only [log, hplace, Option.some.injEq, eq_comm]
    constructor
    · rw [hafter]
      simpa using h.handles
    · intro place t ht
      rw [hafter, List.getElem?_set] at ht
      rw [hlog]
      by_cases hasked : place = asked
      · subst hasked
        have hlen := (List.getElem?_eq_some_iff.mp hs).1
        simp only [if_true, hlen] at ht ⊢
        cases ht
        exact (h.follows place s hs).serve request
      · rw [if_neg (Ne.symm hasked)] at ht
        rw [if_neg hasked]
        exact h.follows place t ht
    · intro place hlen
      rw [hafter] at hlen
      simp only [List.length_set] at hlen
      have hne : place ≠ asked :=
        (Nat.lt_of_lt_of_le (List.getElem?_eq_some_iff.mp hs).1 hlen).ne'
      rw [hlog, if_neg hne]
      exact h.unused place hlen

end Sound

/-- Whatever happens in a session, its stores are in step with their logs. -/
theorem sound (events : List Event) : Sound events := by
  induction events with
  | nil => exact .nil
  | cons event earlier ih =>
    cases event with
    | create => exact ih.create
    | clone handle => exact ih.clone handle
    | request handle request => exact ih.request handle request

/-- **A store is what its log says.** After any events, a request through any handle gets the answer
that the log of its store allows, and the log is that of all handles together. Questions and refused
writes leave the session as it is. A clone is a handle for the same store, and a new store starts
with an empty log. -/
theorem refines_log (events : List Event) {handle place : Nat}
    (hplace : (after events).handles[handle]? = some place) :
    (∀ request, ∃ answer next,
      (after events).serve handle request = some (answer, next) ∧
      next = after (.request handle request :: events) ∧
      (log place events).Answers request answer ∧
      (request.isQuestion = true ∨ (∃ failure, answer = .refused failure) →
        next = after events)) ∧
    (after (.clone handle :: events)).handles = (after events).handles ++ [place] ∧
    (after (.create :: events)).handles = (after events).handles ++ [(after events).stores.length] ∧
    log (after events).stores.length (.create :: events) = [] := by
  obtain ⟨s, hs⟩ := (sound events).exists_store hplace
  refine ⟨fun request => ?_, ?_, rfl, (sound events).unused _ (Nat.le_refl _)⟩
  · refine ⟨_, _, serve_eq hplace hs request, ?_, ?_, fun hsame => ?_⟩
    · rw [after, step, serve_eq hplace hs]
      rfl
    · exact ((sound events).follows place s hs).answers request
    · obtain ⟨hlen, hget⟩ := List.getElem?_eq_some_iff.mp hs
      rw [s.serve_eq_self hsame, ← hget, List.set_getElem_self]
  · simp only [after, step, hplace, Option.toList_some]

/-- Two handles for one store, and a store beside it: what is written through one handle in another
spelling is read through the other, and the store beside it keeps its own. -/
theorem refines_log_clones :
    let events : List Event :=
      [.request 1 (.write "/a/./b" "second"), .request 2 (.write "/a/b" "lost"),
        .request 0 (.write "/a//b" "first"), .request 1 (.createDirectories "/a/c"),
        .request 0 .clear, .request 0 (.write "alone" "gone"), .create, .clone 0, .create]
    (after events).serve 0 (.read "/a/b") = some (.text (some "second"), after events) ∧
      (after events).serve 1 .paths = some (.paths ["/a//b"], after events) ∧
      (after events).serve 2 .writes = some (.count 0, after events) ∧
      (∃ answer next, (after events).serve 1 (.write "/c/d" "") = some (answer, next) ∧
        (log 0 events).Answers (.write "/c/d" "") answer ∧ next = after events) := by
  intro events
  refine ⟨by decide, by decide, by decide, ?_⟩
  have hplace : (after events).handles[1]? = some 0 := by decide
  obtain ⟨answer, next, hserve, -, hanswer, hsame⟩ :=
    (refines_log events hplace).1 (.write "/c/d" "")
  have hdenied : ¬ (log 0 events).Permits "/c/d" := by decide
  refine ⟨answer, next, hserve, hanswer, hsame (.inr ?_)⟩
  cases hanswer with
  | written permitted => exact absurd permitted hdenied
  | refused => exact ⟨_, rfl⟩

end Session

end Scaffold
