import BlueprintControl.Store.Digest
import BlueprintControl.Store.Place
import BlueprintControl.Store.Record

/-!
# Writing documents

A document is written to a temporary file that is then renamed, so that no reader ever sees half a
document. Every step can fail: because of what is in the directory, or because the operating
system says so.

## Main definitions

* `WriteStep`: the steps.
* `Surroundings`: time, identifiers and faults during an operation.
* `Place.writeDocument`: all steps, up to the first that fails.
-/
namespace BlueprintControl

/-- The steps in which a document is written. -/
inductive WriteStep where
  | createFolder
  | createFile
  | write
  | sync
  | rename
  deriving DecidableEq, Repr

/-- What is said about a step that fails. -/
def WriteStep.message : WriteStep → String
  | .createFolder => "Failed to create state directory: "
  | .createFile => "Failed to create temp file: "
  | .write => "Failed to write blueprint: "
  | .sync => "Failed to sync blueprint: "
  | .rename => "Failed to rename blueprint file: "

/-- What an operation on the store finds around it. -/
structure Surroundings where
  now : Stamp
  /-- Identifiers that have not been used before. -/
  ids : Nat → Uuid
  /-- The message of the operating system, for each step that is going to fail. -/
  fault : WriteStep → Option String

/-- Nothing fails but what the directory makes fail. -/
def Surroundings.smooth (now : Stamp) (ids : Nat → Uuid) : Surroundings := ⟨now, ids, fun _ => none⟩

/-- The name under which a document is stored. -/
def documentName (id : String) : String := id ++ ".json"

/-- The name of the temporary file. -/
def temporaryName (id : String) : String := id ++ ".tmp"

/-- The version of a document. -/
def versionOf (content : ByteArray) : ResourceVersion := ⟨Digest.hex content⟩

namespace Place

/-- Why a file cannot be created under a name. -/
def obstacle (p : Place) (name : String) : Option OsError :=
  match p.look name with
  | .file _ => none
  | .folder => some .isFolder
  | .absent .missing => if p.exists? then none else some .missing
  | .absent why => some why

/-- A failed step. -/
def failed (step : WriteStep) (why : String) : StoreFailure := .backend (step.message ++ why)

/-- Runs a step unless it fails. -/
def attempt (s : Surroundings) (step : WriteStep) (natural : Option OsError) :
    Except StoreFailure Unit :=
  match s.fault step with
  | some why => .error (failed step why)
  | none => match natural with
    | some e => .error (failed step e.message)
    | none => .ok ()

/-- The directory, after it has been created if it is not there. -/
def createFolder (s : Surroundings) (p : Place) : Except StoreFailure Unit × Place :=
  match p with
  | .absent => match attempt s .createFolder none with
    | .ok () => (.ok (), .directory .empty)
    | .error f => (.error f, p)
  | .blocked why => (attempt s .createFolder (some why), p)
  | p => (.ok (), p)

/-- Puts a content under a name, by way of a temporary name. -/
def replace (s : Surroundings) (p : Place) (temporary name : String) (content : ByteArray) :
    Except StoreFailure Unit × Place :=
  match attempt s .createFile (p.obstacle temporary) with
  | .error f => (.error f, p)
  | .ok () => match attempt s .write none with
    | .error f => (.error f, p.put temporary ByteArray.empty)
    | .ok () =>
      let written := p.put temporary content
      match attempt s .sync none with
      | .error f => (.error f, written)
      | .ok () => match attempt s .rename (p.obstacle name) with
        | .error f => (.error f, written)
        | .ok () => (.ok (), written.rename temporary name content)

/-- Writes a document. -/
def writeDocument (s : Surroundings) (p : Place) (id : String) (content : ByteArray) :
    Except StoreFailure Unit × Place :=
  match p.createFolder s with
  | (.error f, p) => (.error f, p)
  | (.ok (), p) => p.replace s (temporaryName id) (documentName id) content

end Place
end BlueprintControl
