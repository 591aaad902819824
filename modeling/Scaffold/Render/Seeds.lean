/-
  Scaffold/Render/Seeds.lean
  ==========================
  **Rows that a generated test inserts before its own.**

  An entity with foreign keys cannot be inserted before its parents. For every relationship there is
  one pair of statements that makes and inserts a fake parent, and one clause that hands the
  parent's key to the faker of the entity's creation data.
-/
import Scaffold.Layout

namespace Scaffold

/-- The code that seeds the parents of an entity; both texts are empty when there are none. -/
structure Seeds where
  /-- Statements, each pair followed by an empty line and the indentation of a method's body. -/
  statements : String := ""
  /-- Clauses between the creation faker and its `Generate` call. -/
  clauses : String := ""
  deriving DecidableEq, Repr

namespace Seeds

/-- A line break and the indentation of a method's body. -/
def bodyBreak : String := "\n        "

/-- A line break and the indentation of a call that goes on from the line before. -/
def chainBreak : String := "\n            "

/-- The statements that make and insert one parent. -/
def statementPair (r : Relationship) : String :=
  "var " ++ r.seedVariable ++ " = " ++ Name.faker r.parent ++ ".Generate(new " ++
    Name.faker (DtoShape.creation.className r.parent) ++ "().Generate());" ++ bodyBreak ++
    "await " ++ Text.lowerFirst Name.testingServiceScope ++ ".InsertAsync(" ++ r.seedVariable ++
    ");" ++ bodyBreak ++ bodyBreak

/-- The clause that reads the key of one parent. -/
def clause (lambda : String) (r : Relationship) : String :=
  chainBreak ++ ".RuleFor(" ++ lambda ++ " => " ++ lambda ++ "." ++ r.property ++ ", _ => " ++
    r.seedVariable ++ "." ++ r.parentKey ++ ")"

/-- The code that seeds the parents of an entity. -/
def of (e : Entity) : Seeds :=
  if e.hasParents then
    { statements := String.join (e.relationships.map statementPair)
      clauses := String.join (e.relationships.map (clause e.lambda)) ++ chainBreak }
  else {}

/-- Whether there is nothing to seed. -/
def isEmpty (s : Seeds) : Bool := s.statements.isEmpty && s.clauses.isEmpty

/-- The names of `rest` after those already `found`, each once. -/
def distinct (found : List String) : List String → List String
  | [] => found
  | name :: rest =>
    if found.contains name then distinct found rest else distinct (found ++ [name]) rest

/-- The namespaces of the parents' fakers, each once, in declaration order. An entity that is its
own parent shares its own fakers, which its tests import anyway. -/
def imports (l : Layout) (e : Entity) : Except DomainError (List String) := do
  let parents := (e.relationships.map (·.parent)).filter (· != e.name)
  let namespaces ← parents.mapM fun parent => l.namespaceOf e (.fakes parent)
  pure (distinct [] namespaces)

end Seeds

end Scaffold
