/-
  Scaffold/Text/Letter/Run.lean
  =============================
  **Runs of code points.**

  A character class of a standard is written as a list of runs, and a case mapping as a list of runs
  that move by one offset. A run with step 2 takes every second code point: the layout of the
  alphabets in which capitals and small letters alternate.
-/
namespace Scaffold.Letter

/-- A run `(first, last, step)`: the code points `first`, `first + step`, … up to `last`. -/
abbrev Run := Nat × Nat × Nat

/-- A run `(first, last, step, offset)` whose members move by `offset`. -/
abbrev Shift := Nat × Nat × Nat × Int

/-- Whether a code point is on the run from `first` to `last` with the given step. -/
def onRun (n first last step : Nat) : Bool :=
  first ≤ n && n ≤ last && (n - first) % step == 0

/-- Whether a code point is on one of the runs. -/
def onRuns (n : Nat) (runs : List Run) : Bool :=
  runs.any fun (first, last, step) => onRun n first last step

/-- The code point that `n` moves to under the first run that holds it. -/
def shifted? (n : Nat) (shifts : List Shift) : Option Nat :=
  (shifts.find? fun (first, last, step, _) => onRun n first last step).map
    fun (_, _, _, offset) => (n + offset).toNat

end Scaffold.Letter
