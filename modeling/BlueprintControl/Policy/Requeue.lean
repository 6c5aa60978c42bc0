import BlueprintControl.Domain.Failure
import BlueprintControl.Domain.Log
import BlueprintControl.Text.Lowercase
import BlueprintControl.Time.Span

/-!
# What happens after a failure

A failed pass is retried with a growing delay, repeated after a fixed delay, or left alone until
something changes. The kind of the failure decides; a failure of unknown origin is repeated after
the fixed delay if it mentions a missing resource.

## Main definitions

* `Decision`: what happens next.
* `RequeuePolicy`, `Classifier`: delays and markers, and the classifier made from them.
* `Classifier.decide`: the decision for a failure, with the line it leaves in the log.
-/
namespace BlueprintControl

/-- What happens after a pass. -/
inductive Decision where
  /-- The pass is retried with backoff. -/
  | retry (cause : Failure)
  /-- The pass is repeated after a fixed delay. -/
  | requeueAfter (delay : Span)
  | rest
  deriving DecidableEq

namespace Decision

/-- The fixed delay, if there is one. -/
def delay? : Decision → Option Span
  | .requeueAfter d => some d
  | _ => none

/-- Whether the failure is passed on. -/
def isError : Decision → Bool
  | .retry _ => true
  | _ => false

/-- What is said about a decision. -/
def text : Decision → String
  | .retry cause => "retry with backoff (" ++ cause.message ++ ")"
  | .requeueAfter d => "requeue after " ++ toString d.millis ++ "ms"
  | .rest => "no further action"

end Decision

/-- Delays, and texts that point to a missing resource. -/
structure RequeuePolicy where
  conflictDelay : Span
  retryDelay : Span
  diffNotEmptyDelay : Span
  markers : List String
  deriving DecidableEq

namespace RequeuePolicy

/-- The markers used unless others are given. -/
def standardMarkers : List String :=
  ["referenced secret", "referenced configmap", "referenced config map"]

/-- A second after conflicts and applied changes, ten seconds otherwise. -/
def standard : RequeuePolicy := ⟨.ofSeconds 1, .ofSeconds 10, .ofSeconds 1, standardMarkers⟩

end RequeuePolicy

/-- A policy whose markers are ready to be looked for. -/
structure Classifier where
  policy : RequeuePolicy
  deriving DecidableEq

namespace Classifier

/-- The classifier of a policy: markers are looked for in lower case. -/
def make (p : RequeuePolicy) : Classifier := ⟨{ p with markers := p.markers.map Text.lower }⟩

/-- The classifier used unless another is given. -/
def standard : Classifier := ⟨.standard⟩

instance : Inhabited Classifier := ⟨standard⟩

/-- Whether a text occurs in another. -/
def occursIn (needle : List Char) : List Char → Bool
  | [] => needle.isEmpty
  | c :: rest => needle.isPrefixOf (c :: rest) || occursIn needle rest

/-- Whether the failure mentions a missing resource. -/
def mentionsMissing (c : Classifier) (f : Failure) : Bool :=
  let text := (Text.lower f.message).toList
  c.policy.markers.any fun m => occursIn m.toList text

/-- What happens next, and what the log says about it. -/
def decide (c : Classifier) (f : Failure) : Decision × Log.Line :=
  let p := c.policy
  match f.kind with
  | .internal => (.retry f, ⟨.error, "internal error during reconcile, retrying"⟩)
  | .conflict =>
    (.requeueAfter p.conflictDelay, ⟨.info, "resource was modified concurrently, requeue"⟩)
  | .notFound true => (.requeueAfter p.retryDelay, ⟨.info, "resource not found, requeue"⟩)
  | .notFound false => (.rest, ⟨.error, "resource not found, giving up"⟩)
  | .invalidBlueprint => (.rest, ⟨.info, "blueprint is invalid, waiting for a new version"⟩)
  | .unhealthy => (.requeueAfter p.retryDelay, ⟨.info, "ecosystem is unhealthy, requeue"⟩)
  | .diffNotEmpty =>
    (.requeueAfter p.diffNotEmptyDelay, ⟨.info, "changes applied, re-checking state diff"⟩)
  | .multipleBlueprints =>
    (.requeueAfter p.retryDelay, ⟨.error, "more than one blueprint found, requeue"⟩)
  | .notUpToDate =>
    (.requeueAfter p.retryDelay, ⟨.info, "dependent resources not up to date, requeue"⟩)
  | .restoreInProgress =>
    (.requeueAfter p.retryDelay, ⟨.info, "restore in progress, requeue"⟩)
  | .unknown =>
    if c.mentionsMissing f then
      (.requeueAfter p.retryDelay, ⟨.info, "referenced resource missing, requeue"⟩)
    else (.retry f, ⟨.error, "unknown error during reconcile, retrying"⟩)

end Classifier
end BlueprintControl
