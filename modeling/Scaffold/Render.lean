/-
  Scaffold/Render.lean
  ====================
  **The text of an artifact.**

  Rendering is pure: it needs the layout, the entity and its flags, and answers the whole file or
  the reason why a name in it cannot be resolved.
-/
import Scaffold.Render.DeleteSuite
import Scaffold.Render.Fakes
import Scaffold.Render.Handler
import Scaffold.Render.UpdateSuite

namespace Scaffold

/-- An artifact with its text and the place it belongs to. -/
structure Rendered where
  kind : ArtifactKind
  place : ClassPath
  content : String
  deriving DecidableEq, Repr

/-- Where the artifact is written. -/
def Rendered.path (r : Rendered) : String := r.place.fullPath

namespace Layout

/-- The text of an artifact of an entity. -/
def content (l : Layout) (e : Entity) (flags : Flags) : ArtifactKind → Except DomainError String
  | .deleteFeature => Handler.render l e flags
  | .deleteCommandTest => DeleteSuite.render l e flags
  | .updateEntityTest => UpdateSuite.render l e
  | .entityFaker => Fakes.renderEntity l e
  | .creationDtoFaker => Fakes.renderDto l e .creation
  | .updateDtoFaker => Fakes.renderDto l e .update

/-- An artifact of an entity: its place and its text. -/
def render (l : Layout) (e : Entity) (flags : Flags) (kind : ArtifactKind) :
    Except DomainError Rendered := do
  let place ← l.artifact e kind
  let content ← l.content e flags kind
  pure { kind, place, content }

end Layout

end Scaffold
