/-
  Scaffold/Text/Letter/Blank.lean
  ===============================
  **The Unicode property White_Space.**

  Code points from 128 on, as runs `(first, last, step)` in ascending order; the ASCII part of the
  property is a range test in `Scaffold.Text.Letter`.
-/
import Scaffold.Text.Letter.Run

namespace Scaffold.Letter

/-- Blanks outside ASCII, from the next-line control to the ideographic space. -/
def blankRuns : List Run :=
  [(133, 133, 1), (160, 160, 1), (5760, 5760, 1), (8192, 8202, 1), (8232, 8233, 1),
   (8239, 8239, 1), (8287, 8287, 1), (12288, 12288, 1)]

end Scaffold.Letter
