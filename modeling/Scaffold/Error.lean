/-
  Scaffold/Error.lean
  ===================
  **What can go wrong, and what is said about it.**

  `DomainError` holds the causes that a description of entities or a layout can have; `Failure` adds
  those of writing files and of reading manifests. Each cause is a constructor with the data that
  its wording needs. The wording, the advice and the category are functions of the cause.
-/
import Scaffold.Text.Quoted

namespace Scaffold

/-! ### Causes in the domain -/

/-- Why an entity, a property type, an artifact kind or a class path is refused. -/
inductive DomainError
  | emptyEntityName
  | invalidIdentifier (field value reason : String)
  | missingPrimaryKey (entity : String)
  | multiplePrimaryKeys (entity : String) (properties : List String)
  | duplicateProperty (entity property : String)
  | unknownPropertyType (name : String)
  | unknownArtifactKind (name : String)
  | unresolvableName (entity artifact reason : String)
  deriving DecidableEq, Repr

/-- What a cause has to do with, for grouping and for exit codes. -/
inductive Category
  | configuration
  | resolution
  | notFound
  | emission
  | internal
  deriving DecidableEq, Repr

namespace DomainError

/-- Texts as a bracketed list, each between quotes. -/
def quotedList (xs : List String) : String := "[" ++ Text.joinWith ", " (xs.map Text.quoted) ++ "]"

/-- The wording of a cause. -/
def message : DomainError → String
  | emptyEntityName => "Entity name cannot be empty"
  | invalidIdentifier field value reason =>
    "Invalid identifier '" ++ value ++ "' for " ++ field ++ ": " ++ reason
  | missingPrimaryKey entity => "Entity '" ++ entity ++ "' has no primary key property"
  | multiplePrimaryKeys entity properties =>
    "Entity '" ++ entity ++ "' marks more than one primary key: " ++ quotedList properties
  | duplicateProperty entity property =>
    "Entity '" ++ entity ++ "' declares property '" ++ property ++ "' more than once"
  | unknownPropertyType name => "Unknown property type '" ++ name ++ "'"
  | unknownArtifactKind name => "Unknown artifact kind '" ++ name ++ "'"
  | unresolvableName entity artifact reason =>
    "Cannot resolve '" ++ artifact ++ "' for entity '" ++ entity ++ "': " ++ reason

/-- What the user can do about a cause. -/
def suggestions : DomainError → List String
  | emptyEntityName => ["Every entity needs a PascalCase name", "Example: name = \"Order\""]
  | invalidIdentifier field _ reason =>
    ["Fix the " ++ field ++ ": " ++ reason,
     "Identifiers must start with a letter and contain only letters, digits or '_'"]
  | missingPrimaryKey entity =>
    ["Mark exactly one property of '" ++ entity ++ "' as the primary key",
     "Example: \x7b name = \"Id\", type = \"guid\", primary_key = true \x7d"]
  | multiplePrimaryKeys entity properties =>
    ["'" ++ entity ++ "' marks " ++ Text.joinWith ", " properties ++
       " as primary keys; keep only one",
     "Composite keys are not supported"]
  | duplicateProperty _ property => ["Rename or remove the second '" ++ property ++ "' property"]
  | unknownPropertyType _ =>
    ["Supported types: guid, string, int, long, decimal, double, bool, datetime, dateonly"]
  | unknownArtifactKind _ => ["Try: stencil list"]
  | unresolvableName _ _ reason =>
    ["Resolution failed: " ++ reason,
     "Check the solution, src and test directories and the project name"]

/-- The category of a cause. -/
def category : DomainError → Category
  | unresolvableName .. => .resolution
  | unknownArtifactKind _ => .notFound
  | _ => .configuration

end DomainError

/-! ### Causes around the domain -/

/-- Why a file could not be produced or a manifest not be used. -/
inductive Failure
  | domain (cause : DomainError)
  | emissionFailed (path reason : String)
  | directoryCreationFailed (path reason : String)
  | sinkLocked
  | invalidManifest (path reason : String)
  | manifestNotFound (path : String)
  | internal (detail : String)
  deriving DecidableEq, Repr

namespace Failure

/-- The wording of what happened, without the area it happened in. -/
def detail : Failure → String
  | domain cause => cause.message
  | emissionFailed path reason => "Failed to write " ++ path ++ ": " ++ reason
  | directoryCreationFailed path reason => "Failed to create directory " ++ path ++ ": " ++ reason
  | sinkLocked => "Filesystem lock poisoned"
  | invalidManifest path reason => "Invalid domain manifest " ++ path ++ ": " ++ reason
  | manifestNotFound path => "Domain manifest not found: " ++ path
  | internal detail => "Internal error: " ++ detail ++ ". This is a bug, please report it."

/-- The wording of a failure. -/
def message : Failure → String
  | domain cause => "Domain error: " ++ cause.message
  | internal text => detail (internal text)
  | failure => "Application error: " ++ detail failure

/-- The wordings from the failure down to its innermost cause. -/
def causes : Failure → List String
  | internal text => [message (internal text)]
  | failure => [message failure, detail failure]

/-- What the user can do about a failure. -/
def suggestions : Failure → List String
  | domain cause => cause.suggestions
  | emissionFailed path _ =>
    ["Failed to write: " ++ path,
     "Check that you have write permissions and free disk space",
     "Generation is idempotent: re-run it once the problem is fixed"]
  | directoryCreationFailed path _ =>
    ["Failed to create: " ++ path,
     "Check that the solution, src and test directories are writable"]
  | sinkLocked => ["Try again; a previous write panicked"]
  | invalidManifest .. =>
    ["Manifests are TOML (.toml) or JSON (.json)",
     "Each entity needs a name and a list of properties"]
  | manifestNotFound path =>
    ["No file at " ++ path, "Pass the path to your domain manifest"]
  | internal _ => ["This appears to be a bug in Stencil"]

/-- The category of a failure. -/
def category : Failure → Category
  | domain cause => cause.category
  | emissionFailed .. => .emission
  | directoryCreationFailed .. => .emission
  | sinkLocked => .internal
  | invalidManifest .. => .configuration
  | manifestNotFound _ => .notFound
  | internal _ => .internal

/-- The path that a failure is about, when it is about one. -/
def path? : Failure → Option String
  | emissionFailed path _ => some path
  | directoryCreationFailed path _ => some path
  | invalidManifest path _ => some path
  | manifestNotFound path => some path
  | _ => none

end Failure

end Scaffold
