/-
  Scaffold/Source/Fragments.lean
  ==============================
  **The parts of a test class that can be left out.**

  A test class is put together from at most one text for each kind of fragment. The texts are
  emitted in the order of the kinds, whatever the order they came in, with one blank line between
  neighbours. A fragment is a complete group of members, so nothing has to be trimmed when it is
  left out.
-/
import Scaffold.Text

namespace Scaffold

/-- The kinds of fragments, in the order they are emitted. -/
inductive FragmentKind
  | happyPath
  | notFound
  | softDelete
  | permission
  deriving DecidableEq, Repr

/-- All kinds, in the order they are emitted. -/
def FragmentKind.all : List FragmentKind := [happyPath, notFound, softDelete, permission]

/-- The text of every kind of fragment that is present. -/
structure Fragments where
  get? : FragmentKind → Option String

namespace Fragments

/-- No fragment is present. -/
def empty : Fragments := ⟨fun _ => none⟩

instance : EmptyCollection Fragments := ⟨empty⟩

/-- Gives a kind its text, in place of the one it had. An empty text changes nothing. -/
def insert (fs : Fragments) (kind : FragmentKind) (text : String) : Fragments :=
  if text.isEmpty then fs else ⟨fun k => if k = kind then some text else fs.get? k⟩

/-- Gives a kind its text when `enabled`. -/
def insertIf (fs : Fragments) (kind : FragmentKind) (enabled : Bool) (text : String) : Fragments :=
  if enabled then fs.insert kind text else fs

/-- Gives a kind its text when there is one. -/
def insert? (fs : Fragments) (kind : FragmentKind) : Option String → Fragments
  | some text => fs.insert kind text
  | none => fs

/-- Whether a kind is present. -/
def contains (fs : Fragments) (kind : FragmentKind) : Bool := (fs.get? kind).isSome

/-- The kinds that are present, in the order they are emitted. -/
def kinds (fs : Fragments) : List FragmentKind := FragmentKind.all.filter fs.contains

/-- Whether no kind is present. -/
def isEmpty (fs : Fragments) : Bool := fs.kinds.isEmpty

/-- The texts that are present, with one blank line between neighbours. -/
def assemble (fs : Fragments) : String :=
  Text.joinWith "\n\n" (FragmentKind.all.filterMap fs.get?)

/-! ### What insertion does to the texts -/

variable (fs : Fragments) (kind other : FragmentKind) (text : String)

@[simp] theorem get?_empty : (∅ : Fragments).get? kind = none := rfl

@[simp] theorem get?_insert :
    (fs.insert kind text).get? other =
      if text ≠ "" ∧ other = kind then some text else fs.get? other := by
  by_cases h : text = "" <;> simp [insert, h]

@[simp] theorem get?_insertIf (enabled : Bool) :
    (fs.insertIf kind enabled text).get? other =
      if enabled ∧ text ≠ "" ∧ other = kind then some text else fs.get? other := by
  cases enabled <;> simp [insertIf]

@[simp] theorem insert?_none : fs.insert? kind none = fs := rfl

@[simp] theorem insert?_some : fs.insert? kind (some text) = fs.insert kind text := rfl

end Fragments

end Scaffold
