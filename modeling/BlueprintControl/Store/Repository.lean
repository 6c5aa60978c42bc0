import BlueprintControl.Files.Path
import BlueprintControl.Store.Document
import BlueprintControl.Store.Writing

/-!
# The store of blueprints

Each blueprint is one document in the directory of the store. A blueprint knows the version of the
document it was loaded from; it can be written only while the document still has that version, and
writing it publishes its events.

## Main definitions

* `Store`: the directory and its path.
* `Store.load`, `Store.create`, `Store.update`, `Store.ids`, `Store.history`: the operations.
* `BlueprintDocument.adopt`: brings the store in line with a document.
-/
namespace BlueprintControl

/-- Whether an identifier can be used as the name of a document. -/
def isValidId (id : String) : Bool :=
  let cs := id.toList
  !cs.isEmpty && cs.head? != some '.' &&
    cs.all fun c => c.isAlphanum || c == '-' || c == '_' || c == '.'

/-- An identifier that cannot be used. -/
def invalidId (id : String) : Failure :=
  .invalidBlueprint ("'" ++ id
    ++ "' is not a valid blueprint id. Use letters, digits, '-', '_' and '.'")

/-- The blueprints of a directory. -/
structure Store where
  /-- The path of the directory, as it is shown. -/
  path : String
  place : Place

namespace Store

/-- Reads the document of a blueprint. -/
def read (s : Store) (id : String) : Except Failure (Record × ResourceVersion) :=
  if !isValidId id then .error (invalidId id)
  else
    let name := documentName id
    let shown := Path.join s.path name
    match s.place.look name with
    | .absent _ => .error (.store (.notFound id))
    | .folder =>
      .error (.store (.corrupted
        ("Failed to read " ++ shown ++ ": " ++ OsError.isFolder.message)))
    | .file content => match Record.ofContent content with
      | .error f =>
        .error (.store (.corrupted ("Failed to parse " ++ shown ++ ": " ++ f.message)))
      | .ok r =>
        if r.format = formatVersion then .ok (r, versionOf content)
        else .error (.store (.versionMismatch formatVersion r.format))

/-- Loads a blueprint. -/
def load (s : Store) (id : String) : Except Failure Blueprint := do
  let (r, v) ← s.read id
  return { r.toBlueprint with version := some v }

/-- The events that have been published for a blueprint. -/
def history (s : Store) (id : String) : Except Failure (List RecordedEvent) := do
  let (r, _) ← s.read id
  return r.events

/-- The identifiers of the stored blueprints. -/
def ids (s : Store) : Except Failure (List String) :=
  match s.place with
  | .occupied =>
    .error (.store (.backend ("Failed to read state directory: " ++ OsError.notFolder.message)))
  | p => .ok p.ids

/-- The record that is written for a blueprint whose published events are known. -/
def recordOf (w : Surroundings) (b : Blueprint) (published : List RecordedEvent) : Record :=
  { Record.ofBlueprint b w.now with events := published }.appendEvents b.pending w.now w.ids

/-- Writes a record. On success the blueprint has the version of the document, and its events are
published. -/
def write (w : Surroundings) (s : Store) (b : Blueprint) (published : List RecordedEvent) :
    Except Failure Blueprint × Store :=
  let content := (recordOf w b published).document.toUTF8
  match s.place.writeDocument w b.id content with
  | (.error f, p) => (.error (.store f), { s with place := p })
  | (.ok (), p) =>
    (.ok { b.drained with version := some (versionOf content) }, { s with place := p })

/-- Stores a blueprint that is not stored yet. -/
def create (w : Surroundings) (s : Store) (b : Blueprint) : Except Failure Blueprint × Store :=
  if !isValidId b.id then (.error (invalidId b.id), s)
  else if (s.place.look (documentName b.id)).exists? then
    (.error (.store (.alreadyExists b.id)), s)
  else s.write w b []

/-- The published events, if the blueprint may be written: it is still the one it was loaded
from. -/
def current (s : Store) (b : Blueprint) : Except Failure (List RecordedEvent) := do
  let expected ← b.version?
  let (r, found) ← s.read b.id
  if found = expected then return r.events
  else throw (.store (.conflict b.id expected.token found.token))

/-- Writes a blueprint that is stored. -/
def update (w : Surroundings) (s : Store) (b : Blueprint) : Except Failure Blueprint × Store :=
  match s.current b with
  | .error f => (.error f, s)
  | .ok published => s.write w b published

end Store

/-- Stores the blueprint of a document, or gives the stored blueprint the flags of the
document. -/
def BlueprintDocument.adopt (d : BlueprintDocument) (w : Surroundings) (s : Store) :
    Except Failure Blueprint × Store :=
  match s.load d.id with
  | .ok b => if b.config = d.config then (.ok b, s) else s.update w { b with config := d.config }
  | .error f => if f.isNotFound then s.create w d.toBlueprint else (.error f, s)

end BlueprintControl
