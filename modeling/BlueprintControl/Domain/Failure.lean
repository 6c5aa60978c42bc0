/-!
# Failures

Everything that can stop a pass, a command or a store operation is a `Failure`. Each failure
belongs to exactly one kind, and it is the kind that decides what happens next.

## Main definitions

* `Failure`, `ConfigFailure`, `StoreFailure`: the causes.
* `Failure.message`: what is said about a cause.
* `Failure.kind`: the kind it belongs to.
-/
namespace BlueprintControl

/-- Why a configuration cannot be used. -/
inductive ConfigFailure where
  | fileNotFound (path : String)
  | parse (message : String) (location : Option String)
  | validation (message : String) (field : Option String)
  | invalidEnvVar (name value : String)
  deriving DecidableEq, Repr

/-- Why a store operation cannot be carried out. -/
inductive StoreFailure where
  | notFound (id : String)
  | alreadyExists (id : String)
  | conflict (id expected found : String)
  | corrupted (message : String)
  | backend (message : String)
  | serialization (message : String)
  | versionMismatch (expected found : String)
  deriving DecidableEq, Repr

/-- What can go wrong. -/
inductive Failure where
  | internal (message : String)
  | conflict (resource message : String)
  | notFound (resource message : String) (retryable : Bool)
  | invalidBlueprint (message : String)
  | unhealthy (message : String)
  | diffNotEmpty (message : String)
  | multipleBlueprints (ids : List String)
  | notUpToDate (message : String)
  | restoreInProgress (message : String)
  | config (cause : ConfigFailure)
  | store (cause : StoreFailure)
  | io (message : String)
  | unknown (message : String)
  deriving DecidableEq, Repr

/-- What is said about a configuration that cannot be used. -/
def ConfigFailure.message : ConfigFailure → String
  | .fileNotFound path => "Configuration file not found: " ++ path
  | .parse message _ => "Failed to parse configuration: " ++ message
  | .validation message _ => "Configuration validation failed: " ++ message
  | .invalidEnvVar name value => "Invalid value for environment variable " ++ name ++ ": " ++ value

/-- What is said about a store operation that cannot be carried out. -/
def StoreFailure.message : StoreFailure → String
  | .notFound id => "Blueprint not found: " ++ id
  | .alreadyExists id => "Blueprint already exists: " ++ id
  | .conflict id expected found =>
    "Resource version mismatch for " ++ id ++ ": expected " ++ expected ++ ", found " ++ found
  | .corrupted message => "State is corrupted: " ++ message
  | .backend message => "State backend error: " ++ message
  | .serialization message => "State serialization error: " ++ message
  | .versionMismatch expected found =>
    "State version mismatch: expected " ++ expected ++ ", found " ++ found

namespace Failure

/-- What is said about a failure. -/
def message : Failure → String
  | .internal message => "Internal error: " ++ message
  | .conflict resource message => "Conflict while updating " ++ resource ++ ": " ++ message
  | .notFound resource message _ => "Resource not found: " ++ resource ++ ": " ++ message
  | .invalidBlueprint message => "Blueprint is invalid: " ++ message
  | .unhealthy message => "Ecosystem is unhealthy: " ++ message
  | .diffNotEmpty message => "State diff is not empty yet: " ++ message
  | .multipleBlueprints ids =>
    "Multiple blueprints found, only one is allowed: " ++ ", ".intercalate ids
  | .notUpToDate message => "Dependent resources are not up to date: " ++ message
  | .restoreInProgress message => "Restore in progress: " ++ message
  | .config cause => "Configuration error: " ++ cause.message
  | .store cause => "State error: " ++ cause.message
  | .io message => "IO error: " ++ message
  | .unknown message => message

/-- The kinds of failures. -/
inductive Kind where
  | internal
  | conflict
  | notFound (retryable : Bool)
  | invalidBlueprint
  | unhealthy
  | diffNotEmpty
  | multipleBlueprints
  | notUpToDate
  | restoreInProgress
  | unknown
  deriving DecidableEq, Repr

/-- The kind a failure belongs to. -/
def kind : Failure → Kind
  | .internal _ | .config _ | .io _ => .internal
  | .conflict _ _ => .conflict
  | .notFound _ _ retryable => .notFound retryable
  | .store (.conflict _ _ _) => .conflict
  | .store (.notFound _) => .notFound false
  | .store _ => .internal
  | .invalidBlueprint _ => .invalidBlueprint
  | .unhealthy _ => .unhealthy
  | .diffNotEmpty _ => .diffNotEmpty
  | .multipleBlueprints _ => .multipleBlueprints
  | .notUpToDate _ => .notUpToDate
  | .restoreInProgress _ => .restoreInProgress
  | .unknown _ => .unknown

/-- Whether something is missing, whether or not it may come back. -/
def isNotFound (f : Failure) : Bool := match f.kind with
  | .notFound _ => true
  | _ => false

end Failure
end BlueprintControl
