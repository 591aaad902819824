/-
  Scaffold/Proofs/Path.lean
  =========================
  **Paths that grow by plain pieces.**

  A plain piece names one directory or file: it is not empty, holds no separator and is neither `.`
  nor `..`. Joining plain pieces to a path that is not empty adds exactly one component each
  (`components_foldl_join`), and taking the parent removes the last of them again with the text
  unchanged (`parent?_join`), however the path in front was spelled.
-/
import Scaffold.Path
import Scaffold.Proofs.Text.Splitting

namespace Scaffold.Path

open Scaffold

/-- A text that names one directory or file. -/
structure IsPlain (piece : String) : Prop where
  not_empty : piece ≠ ""
  not_current : piece ≠ "."
  not_up : piece ≠ ".."
  no_slash : '/' ∉ piece.toList
  no_backslash : '\\' ∉ piece.toList

theorem toList_slash : "/".toList = ['/'] := rfl

theorem isAbsolute_of_not_mem {piece : String} (h : '/' ∉ piece.toList) :
    isAbsolute piece = false := by
  unfold isAbsolute
  cases hchars : piece.toList with
  | nil => rfl
  | cons c cs =>
    have hc : c ≠ '/' := by
      rintro rfl
      exact h (by simp [hchars])
    simpa using hc

namespace IsPlain

variable {piece : String}

theorem isIdle (h : IsPlain piece) : isIdle piece = false := by
  simp [Path.isIdle, h.not_empty, h.not_current]

theorem ofPiece? (h : IsPlain piece) : Component.ofPiece? piece = some (.name piece) := by
  simp [Component.ofPiece?, h.isIdle, h.not_up]

theorem isAbsolute (h : IsPlain piece) : isAbsolute piece = false :=
  isAbsolute_of_not_mem h.no_slash

theorem splitOn (h : IsPlain piece) : Text.splitOn '/' piece = [piece] :=
  Text.splitOn_of_not_mem h.no_slash

end IsPlain

/-! ### Pieces and components -/

/-- What the pieces of a path mean. -/
def meaning : List String → List Component
  | "" :: first :: rest => .root :: (first :: rest).filterMap Component.ofPiece?
  | "." :: rest => .current :: rest.filterMap Component.ofPiece?
  | all => all.filterMap Component.ofPiece?

theorem components_eq (path : String) : components path = meaning (Text.splitOn '/' path) := by
  unfold components pieces
  generalize Text.splitOn '/' path = all
  fun_cases meaning all with
  | case1 first rest => rfl
  | case2 rest => rfl
  | case3 hroot hcurrent => simp_all

theorem meaning_cons {first : String} {rest : List String} (hempty : first ≠ "" ∨ rest = [])
    (hdot : first ≠ ".") :
    meaning (first :: rest) = (first :: rest).filterMap Component.ofPiece? := by
  unfold meaning
  split
  · next next rest heq =>
    cases heq
    simp at hempty
  · next rest heq =>
    cases heq
    exact absurd rfl hdot
  · rfl

/-- A further piece adds its own component, unless it is what makes the path absolute. -/
theorem meaning_concat {all : List String} (hall : all ≠ []) (hroot : all ≠ [""])
    (piece : String) :
    meaning (all ++ [piece]) = meaning all ++ (Component.ofPiece? piece).toList := by
  have hpiece : List.filterMap Component.ofPiece? [piece] = (Component.ofPiece? piece).toList := by
    cases h : Component.ofPiece? piece <;> simp [h]
  obtain ⟨first, rest, rfl⟩ := List.exists_cons_of_ne_nil hall
  by_cases hdot : first = "."
  · subst hdot
    have happ : meaning ("." :: rest ++ [piece]) =
        Component.current :: (rest ++ [piece]).filterMap Component.ofPiece? := rfl
    rw [happ, List.filterMap_append, hpiece]
    rfl
  by_cases hempty : first = ""
  · subst hempty
    have hrest : rest ≠ [] := by
      rintro rfl
      exact hroot rfl
    obtain ⟨next, rest, rfl⟩ := List.exists_cons_of_ne_nil hrest
    have happ : meaning ("" :: next :: rest ++ [piece]) =
        Component.root :: (next :: rest ++ [piece]).filterMap Component.ofPiece? := rfl
    rw [happ, List.filterMap_append, hpiece]
    rfl
  · rw [List.cons_append, meaning_cons (.inl hempty) hdot, meaning_cons (.inl hempty) hdot,
      ← List.cons_append, List.filterMap_append, hpiece]

theorem splitOn_ne_root {path : String} (h : path ≠ "") : Text.splitOn '/' path ≠ [""] := by
  intro hroot
  have hpath := Text.joinWith_splitOn toList_slash path
  rw [hroot] at hpath
  exact h hpath.symm

theorem components_slash {path piece : String} (hpath : path ≠ "") (hpiece : '/' ∉ piece.toList) :
    components (path ++ "/" ++ piece) =
      components path ++ (Component.ofPiece? piece).toList := by
  rw [components_eq, components_eq, Text.splitOn_append toList_slash,
    Text.splitOn_of_not_mem hpiece]
  exact meaning_concat (Text.splitOn_ne_nil '/' path) (splitOn_ne_root hpath) piece

theorem components_of_isPlain {piece : String} (h : IsPlain piece) :
    components piece = [.name piece] := by
  rw [components_eq, h.splitOn, meaning_cons (.inl h.not_empty) h.not_current]
  simp [h.ofPiece?]

/-! ### Joining -/

section Join

variable {base piece : String}

theorem join_of_endsWith (h : IsPlain piece) (hbase : Text.endsWith base "/" = true) :
    join base piece = base ++ piece := by
  simp [join, h.isAbsolute, hbase]

theorem join_of_not_endsWith (h : '/' ∉ piece.toList) (hempty : base ≠ "")
    (hbase : Text.endsWith base "/" = false) : join base piece = base ++ "/" ++ piece := by
  simp [join, isAbsolute_of_not_mem h, hempty, hbase]

theorem join_ne_empty (h : IsPlain piece) : join base piece ≠ "" := by
  intro hempty
  unfold join at hempty
  rw [h.isAbsolute] at hempty
  by_cases hbase : (base.isEmpty || Text.endsWith base "/") = true
  · simp [hbase, h.not_empty] at hempty
  · simp [hbase, h.not_empty] at hempty

/-- **Joining a plain piece adds its component.** -/
theorem components_join (hbase : base ≠ "") (h : IsPlain piece) :
    components (join base piece) = components base ++ [.name piece] := by
  have hcomponent : (Component.ofPiece? piece).toList = [.name piece] := by
    rw [h.ofPiece?, Option.toList_some]
  cases hends : Text.endsWith base "/" with
  | false =>
    rw [join_of_not_endsWith h.no_slash hbase hends, components_slash hbase h.no_slash, hcomponent]
  | true =>
    rw [join_of_endsWith h hends]
    obtain ⟨front, rfl⟩ := Text.endsWith_iff.mp hends
    by_cases hfront : front = ""
    · -- the path is the root itself
      subst hfront
      have hroot : components ("" ++ "/") = [.root] := by decide
      rw [hroot, components_eq, Text.splitOn_append toList_slash, h.splitOn]
      change Component.root :: [piece].filterMap Component.ofPiece? = _
      simp [h.ofPiece?]
    · have hslash : components (front ++ "/") = components front := by
        have hend : components (front ++ "/" ++ "") =
            components front ++ (Component.ofPiece? "").toList :=
          components_slash hfront (by simp)
        rw [String.append_empty] at hend
        rw [hend]
        exact List.append_nil _
      rw [components_slash hfront h.no_slash, hcomponent, hslash]

theorem foldl_join_ne_empty {pieces : List String} (hbase : base ≠ "")
    (h : ∀ piece ∈ pieces, IsPlain piece) : pieces.foldl join base ≠ "" := by
  induction pieces generalizing base with
  | nil => exact hbase
  | cons piece pieces ih =>
    exact ih (join_ne_empty (h piece List.mem_cons_self))
      fun other hother => h other (List.mem_cons_of_mem piece hother)

theorem components_foldl_join {pieces : List String} (hbase : base ≠ "")
    (h : ∀ piece ∈ pieces, IsPlain piece) :
    components (pieces.foldl join base) = components base ++ pieces.map .name := by
  induction pieces generalizing base with
  | nil => simp
  | cons piece pieces ih =>
    have hpiece : IsPlain piece := h piece List.mem_cons_self
    have hjoin : join base piece ≠ "" := join_ne_empty hpiece
    have hrest := ih hjoin fun other hother => h other (List.mem_cons_of_mem piece hother)
    rw [List.foldl_cons, hrest, components_join hbase hpiece, List.append_assoc,
      List.singleton_append, List.map_cons]

end Join

/-! ### Parents -/

/-- The last piece of a path is plain, and there is one before it. -/
def EndsPlain (path : String) : Prop :=
  ∃ front piece, front ≠ [] ∧ IsPlain piece ∧ Text.splitOn '/' path = front ++ [piece]

theorem endsPlain_join {base piece : String} (hbase : base ≠ "") (h : IsPlain piece) :
    EndsPlain (join base piece) := by
  cases hends : Text.endsWith base "/" with
  | false =>
    refine ⟨Text.splitOn '/' base, piece, Text.splitOn_ne_nil '/' base, h, ?_⟩
    rw [join_of_not_endsWith h.no_slash hbase hends, Text.splitOn_append toList_slash, h.splitOn]
  | true =>
    rw [join_of_endsWith h hends]
    obtain ⟨front, rfl⟩ := Text.endsWith_iff.mp hends
    refine ⟨Text.splitOn '/' front, piece, Text.splitOn_ne_nil '/' front, h, ?_⟩
    rw [Text.splitOn_append toList_slash, h.splitOn]

theorem endsPlain_foldl_join {base : String} {pieces : List String} (hbase : base ≠ "")
    (hne : pieces ≠ []) (h : ∀ piece ∈ pieces, IsPlain piece) :
    EndsPlain (pieces.foldl join base) := by
  obtain ⟨front, last, rfl⟩ : ∃ front last, pieces = front ++ [last] :=
    ⟨_, _, (List.dropLast_concat_getLast hne).symm⟩
  rw [List.foldl_append, List.foldl_cons, List.foldl_nil]
  refine endsPlain_join ?_ (h last (by simp))
  exact foldl_join_ne_empty hbase fun piece hpiece => h piece (List.mem_append_left _ hpiece)

theorem EndsPlain.not_endsWith {path : String} (h : EndsPlain path) :
    Text.endsWith path "/" = false := by
  obtain ⟨front, piece, -, hpiece, hsplit⟩ := h
  cases hends : Text.endsWith path "/" with
  | false => rfl
  | true =>
    obtain ⟨rest, rfl⟩ := Text.endsWith_iff.mp hends
    -- such a path would end in an empty piece
    have hrest := Text.splitOn_append toList_slash rest ""
    rw [String.append_empty, hsplit] at hrest
    have hlast : piece = "" := by
      have hempty : Text.splitOn '/' "" = [""] := by decide
      rw [hempty] at hrest
      simpa using (List.append_inj' hrest rfl).2
    exact absurd hlast hpiece.not_empty

theorem EndsPlain.ne_empty {path : String} (h : EndsPlain path) : path ≠ "" := by
  rintro rfl
  obtain ⟨front, piece, -, hpiece, hsplit⟩ := h
  have hempty : Text.splitOn '/' "" = [""] := by decide
  rw [hempty, ← List.nil_append [""]] at hsplit
  have hlast : [""] = [piece] := (List.append_inj' hsplit rfl).2
  exact hpiece.not_empty (List.singleton_inj.mp hlast).symm

/-- The last component of such a path is a name. -/
theorem EndsPlain.exists_components {path : String} (h : EndsPlain path) :
    ∃ front name, IsPlain name ∧ components path = front ++ [.name name] := by
  obtain ⟨front, piece, hfront, hpiece, hsplit⟩ := h
  by_cases hroot : front = [""]
  · subst hroot
    refine ⟨[.root], piece, hpiece, ?_⟩
    rw [components_eq, hsplit]
    change Component.root :: [piece].filterMap Component.ofPiece? = _
    simp [hpiece.ofPiece?]
  · refine ⟨meaning front, piece, hpiece, ?_⟩
    rw [components_eq, hsplit, meaning_concat hfront hroot, hpiece.ofPiece?, Option.toList_some]

/-- What a file adds to its directory: a component of its own, `..`, or nothing. -/
theorem EndsPlain.components_join {directory file : String} (h : EndsPlain directory)
    (hfile : '/' ∉ file.toList) :
    components (join directory file) =
      components directory ++ (Component.ofPiece? file).toList := by
  rw [join_of_not_endsWith hfile h.ne_empty h.not_endsWith, components_slash h.ne_empty hfile]

theorem dropIdleEnd_concat {front : List String} {piece : String} (h : IsPlain piece) :
    dropIdleEnd (front ++ [piece]) = front ++ [piece] := by
  unfold dropIdleEnd
  rw [List.reverse_append, List.reverse_singleton, List.singleton_append, List.dropWhile_cons,
    h.isIdle]
  simp

/-- What stands in front of the pieces of a path. -/
def Start.text : Start → String
  | .root => "/"
  | .current => "./"
  | .plain => ""

theorem parent?_of_pieces {path piece file : String} {start : Start} {front : List String}
    (hpiece : IsPlain piece) (hfile : IsPlain file)
    (h : pieces path = (start, front ++ [piece] ++ [file])) :
    parent? path = some (start.text ++ Text.joinWith "/" (front ++ [piece])) := by
  unfold parent?
  rw [h]
  simp only [dropIdleEnd_concat hfile]
  obtain ⟨first, rest, hcons⟩ : ∃ first rest, front ++ [piece] ++ [file] = first :: rest :=
    List.exists_cons_of_ne_nil (by simp)
  obtain ⟨next, others, hinit⟩ : ∃ next others, front ++ [piece] = next :: others :=
    List.exists_cons_of_ne_nil (by simp)
  have hdrop : (first :: rest).dropLast = next :: others := by
    rw [← hcons, List.dropLast_concat, hinit]
  have hkept : dropIdleEnd (next :: others) = next :: others := by
    rw [← hinit, dropIdleEnd_concat hpiece]
  rw [hcons]
  cases start with
  | root => simp only [hdrop, hkept, hinit, Start.text]
  | current => simp only [hdrop, hkept, hinit, Start.text]
  | plain => simp only [hdrop, hkept, hinit, Start.text, String.empty_append]

/-- **The parent of a file is its directory**, in the spelling that it was joined to. -/
theorem parent?_join {directory file : String} (hdirectory : EndsPlain directory)
    (hfile : IsPlain file) : parent? (join directory file) = some directory := by
  have htext := Text.joinWith_splitOn toList_slash directory
  rw [join_of_not_endsWith hfile.no_slash hdirectory.ne_empty hdirectory.not_endsWith]
  obtain ⟨front, piece, hfront, hpiece, hsplit⟩ := hdirectory
  have hall : Text.splitOn '/' (directory ++ "/" ++ file) = front ++ [piece] ++ [file] := by
    rw [Text.splitOn_append toList_slash, hfile.splitOn, hsplit]
  rw [hsplit] at htext
  obtain ⟨first, rest, rfl⟩ := List.exists_cons_of_ne_nil hfront
  have hjoin : Text.joinWith "/" (first :: rest ++ [piece]) =
      first ++ "/" ++ Text.joinWith "/" (rest ++ [piece]) :=
    Text.joinWith_append "/" (List.cons_ne_nil first []) (by simp)
  by_cases hroot : first = ""
  · subst hroot
    have hpieces : pieces (directory ++ "/" ++ file) = (.root, rest ++ [piece] ++ [file]) := by
      unfold pieces
      rw [hall]
      cases rest <;> rfl
    rw [parent?_of_pieces hpiece hfile hpieces, ← htext, hjoin]
    rfl
  by_cases hcurrent : first = "."
  · subst hcurrent
    have hpieces : pieces (directory ++ "/" ++ file) = (.current, rest ++ [piece] ++ [file]) := by
      unfold pieces
      rw [hall]
      rfl
    rw [parent?_of_pieces hpiece hfile hpieces, ← htext, hjoin]
    rfl
  · have hpieces : pieces (directory ++ "/" ++ file) =
        (.plain, first :: rest ++ [piece] ++ [file]) := by
      unfold pieces
      rw [hall]
      split <;> simp_all
    rw [parent?_of_pieces hpiece hfile hpieces, htext]
    exact congrArg some String.empty_append

/-! ### File names -/

theorem fileName?_of_components {path name : String} {front : List Component}
    (h : components path = front ++ [.name name]) : fileName? path = some name := by
  unfold fileName?
  rw [h, List.getLast?_concat]

/-- The stem of a file name is what stands in front of its extension. -/
theorem stem?_append_cs {name : String} (hname : name ≠ "") (h : IsPlain (name ++ ".cs")) :
    stem? (name ++ ".cs") = some name := by
  have hchars : (name ++ ".cs").toList.reverse = 's' :: 'c' :: '.' :: name.toList.reverse := by
    rw [String.toList_append, List.reverse_append]
    rfl
  have hcut : (cutExtension (name ++ ".cs")).1 = name := by
    unfold cutExtension
    simp only [hchars]
    simp [hname]
  unfold stem? fileName?
  rw [components_of_isPlain h]
  simp [hcut]

end Scaffold.Path
