/-
  Scaffold/Path.lean
  ==================
  **Unix paths as texts, and the components they name.**

  A path is kept as it was written; `components` is what it means. Repeated and trailing slashes and
  every `.` but a leading one carry no meaning, so two texts can be the same path. `..` is a
  component like any other: it is not resolved here.
-/
import Scaffold.Text

namespace Scaffold.Path

open Scaffold

/-! ### Components -/

/-- A step of a path. -/
inductive Component
  | root
  | current
  | up
  | name (text : String)
  deriving DecidableEq, Repr

/-- Whether a piece between slashes carries no meaning. -/
def isIdle (piece : String) : Bool := piece.isEmpty || piece == "."

/-- The component that a piece between slashes names. -/
def Component.ofPiece? (piece : String) : Option Component :=
  if isIdle piece then none else if piece == ".." then some .up else some (.name piece)

/-- How a path begins: at the root, with a leading `.`, or with its first piece. -/
inductive Start
  | root
  | current
  | plain
  deriving DecidableEq, Repr

/-- The beginning of a path and the pieces after it. -/
def pieces (path : String) : Start × List String :=
  match Text.splitOn '/' path with
  | "" :: first :: rest => (.root, first :: rest)
  | "." :: rest => (.current, rest)
  | all => (.plain, all)

/-- The components of a path, in order. -/
def components (path : String) : List Component :=
  match pieces path with
  | (.root, rest) => .root :: rest.filterMap Component.ofPiece?
  | (.current, rest) => .current :: rest.filterMap Component.ofPiece?
  | (.plain, all) => all.filterMap Component.ofPiece?

/-- Whether two texts are the same path. -/
def same (p q : String) : Bool := components p == components q

/-- Whether a path starts at the root. -/
def isAbsolute (path : String) : Bool := path.toList.head? == some '/'

/-! ### Order -/

/-- The place of a component among components of other sorts. -/
def Component.rank : Component → Nat
  | .root => 0
  | .current => 1
  | .up => 2
  | .name _ => 3

/-- The order of components: by sort, names by their characters. -/
def Component.compare : Component → Component → Ordering
  | .name a, .name b => Ord.compare a b
  | a, b => Ord.compare a.rank b.rank

/-- The order of paths: component by component, a path before its extensions. -/
def compareComponents : List Component → List Component → Ordering
  | [], [] => .eq
  | [], _ :: _ => .lt
  | _ :: _, [] => .gt
  | a :: as, b :: bs => (a.compare b).then (compareComponents as bs)

/-- The order of paths as texts. -/
def compare (p q : String) : Ordering := compareComponents (components p) (components q)

/-! ### Building and taking apart -/

/-- A path followed by another: an absolute one replaces the first. -/
def join (base child : String) : String :=
  if isAbsolute child then child
  else if base.isEmpty || Text.endsWith base "/" then base ++ child
  else base ++ "/" ++ child

/-- The pieces without the idle ones at the end. -/
def dropIdleEnd (ps : List String) : List String := (ps.reverse.dropWhile isIdle).reverse

/-- The path without its last component; nothing for the root and the empty path. -/
def parent? (path : String) : Option String :=
  let (start, rest) := pieces path
  match start, dropIdleEnd rest with
  | .current, [] => some ""
  | _, [] => none
  | start, kept =>
    let init := dropIdleEnd kept.dropLast
    some <| match start, init with
      | .root, init => "/" ++ Text.joinWith "/" init
      | .current, [] => "."
      | .current, init => "./" ++ Text.joinWith "/" init
      | .plain, init => Text.joinWith "/" init

/-- A path and the ones above it, as long as there are some; `fuel` bounds them. -/
def lineage : Nat → String → List String
  | 0, _ => []
  | fuel + 1, path => path :: (parent? path).elim [] (lineage fuel)

/-- A path and all paths above it. -/
def ancestors (path : String) : List String := lineage (path.toList.length + 1) path

/-- The directory that a file is in: the one above it, else the working directory. -/
def directoryOf (path : String) : String :=
  match parent? path with
  | some parent => if parent.isEmpty then "." else parent
  | none => "."

/-- The last component when it is a name. -/
def fileName? (path : String) : Option String :=
  match (components path).getLast? with
  | some (.name text) => some text
  | _ => none

/-- A file name cut at its last dot. A dot in front does not count, and a name without one has no
second part. -/
def cutExtension (name : String) : String × Option String :=
  let cs := name.toList.reverse
  let after := cs.takeWhile (· != '.')
  let before := (cs.dropWhile (· != '.')).drop 1
  if before.isEmpty then (name, none)
  else (String.ofList before.reverse, some (String.ofList after.reverse))

/-- The file name without its extension. -/
def stem? (path : String) : Option String := (fileName? path).map fun name => (cutExtension name).1

/-- The extension of the file name. -/
def extension? (path : String) : Option String :=
  (fileName? path).bind fun name => (cutExtension name).2

end Scaffold.Path
