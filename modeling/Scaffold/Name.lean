/-
  Scaffold/Name.lean
  ==================
  **Names in generated C# code.**

  Every identifier that more than one generated file writes is derived here, so that two files
  cannot disagree on how `Order` becomes `FakeOrderForCreationDto` or `order`.

  Identifiers are ASCII: a letter or `_`, then letters, digits and `_`.
-/
import Scaffold.Text.Plural
import Scaffold.Text.Words

namespace Scaffold.Name

open Scaffold

/-! ### Identifiers -/

/-- Whether an identifier may start with the character. -/
def isStart (c : Char) : Bool := Letter.isAsciiLetter c || c == '_'

/-- Whether an identifier may go on with the character. -/
def isPart (c : Char) : Bool := isStart c || Letter.isAsciiDigit c

/-- Whether the text is an identifier. -/
def isIdentifier (s : String) : Bool :=
  match s.toList with
  | [] => false
  | c :: cs => isStart c && cs.all isPart

/-- Whether the text is one or more identifiers with dots between them. -/
def isDotted (s : String) : Bool := (Text.splitOn '.' s).all isIdentifier

/-- Reserved C# keywords, and the contextual ones that an `async` method rejects as locals. -/
def keywords : List String :=
  ["abstract", "as", "async", "await", "base", "bool", "break", "byte", "case", "catch", "char",
   "checked", "class", "const", "continue", "decimal", "default", "delegate", "do", "double",
   "dynamic", "else", "enum", "event", "explicit", "extern", "false", "finally", "fixed",
   "float", "for", "foreach", "goto", "if", "implicit", "in", "int", "interface", "internal",
   "is", "lock", "long", "nameof", "namespace", "new", "null", "object", "operator", "out",
   "override", "params", "private", "protected", "public", "readonly", "record", "ref",
   "return", "sbyte", "sealed", "short", "sizeof", "stackalloc", "static", "string", "struct",
   "switch", "this", "throw", "true", "try", "typeof", "uint", "ulong", "unchecked", "unsafe",
   "ushort", "using", "var", "virtual", "void", "volatile", "when", "where", "while", "yield"]

/-- Whether the text is a C# keyword. -/
def isKeyword (s : String) : Bool := keywords.contains s

/-- Locals and lambda parameters that generated tests declare themselves. -/
def reservedLocals : List String := ["command", "act", "badId", "testingServiceScope", "db"]

/-- Whether generated tests already use the name for a local of their own. -/
def isReserved (s : String) : Bool := reservedLocals.contains s

/-! ### From free-form text to names -/

/-- The PascalCase form of free-form text. Identifiers that start with a capital are kept as they
are, so that acronyms such as `SKU` survive. -/
def pascal (s : String) : String :=
  let t := Text.trim s
  if isIdentifier t && (t.toList.head?.any Letter.isUpper) then t else Words.upperCamel t

/-- The lambda parameter of an entity whose name is empty. -/
def fallbackLambda : String := "x"

/-- The lambda parameter that an entity name suggests: its first letter, made small. -/
def defaultLambda (entity : String) : String :=
  match entity.toList with
  | [] => fallbackLambda
  | c :: _ => String.ofList (Letter.toLower c)

/-- The local that holds an instance of the entity. A name that clashes with the lambda parameter or
with a local of the tests takes the suffix `Entity`; a keyword is escaped with `@`. -/
def localVariable (entity lambda : String) : String :=
  let name := Text.lowerFirst entity
  if name == lambda || isReserved name then name ++ "Entity"
  else if isKeyword name then "@" ++ name
  else name

/-! ### Classes and variables -/

/-- The faker of a class. -/
def faker (name : String) : String := "Fake" ++ name

/-- The feature class that deletes an entity. -/
def deleteFeature (entity : String) : String := "Delete" ++ entity

/-- The class of the integration tests of the delete command. -/
def deleteCommandTests (entity : String) : String := "Delete" ++ entity ++ "CommandTests"

/-- The class of the unit tests of the update method. -/
def updateTests (entity : String) : String := "Update" ++ entity ++ "Tests"

/-- The repository interface of an entity. -/
def repository (entity : String) : String := "I" ++ entity ++ "Repository"

/-- The command record inside every feature class. -/
def command : String := "Command"

/-- The test helper that owns a scope of services on the test database. -/
def testingServiceScope : String := "TestingServiceScope"

/-- The variable that holds the first seeded fake of an entity. -/
def fakeVariable (entity : String) : String := "fake" ++ entity ++ "One"

/-- The key assumed for a parent that is not part of the batch. -/
def defaultParentKey : String := "Id"

end Scaffold.Name
