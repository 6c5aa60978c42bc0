import BlueprintControl.Domain.Blueprint
import BlueprintControl.Files.Look
import BlueprintControl.Text.Blank
import BlueprintControl.Yaml.Format

/-!
# Blueprint documents

A document states what a blueprint should be: its identifier, its flags and a state diff that has
been determined beforehand. It is written in YAML, of which JSON is a part.

## Main definitions

* `BlueprintDocument`: the document.
* `BlueprintDocument.parse`: reads one from a text.
* `BlueprintDocument.ofLook`: reads one from what is found at a path.
-/
namespace BlueprintControl

/-- A blueprint with its state diff. -/
structure BlueprintDocument where
  id : String
  config : BlueprintConfig
  diff : StateDiff
  deriving DecidableEq

namespace BlueprintDocument

/-- Reads a document. -/
def read {ν : Type} (F : Format ν) : ν → Except Fault BlueprintDocument :=
  F.record "BlueprintDocument"
    (((RecordReader.required "id" F.string).both
      ((RecordReader.optional "config" (BlueprintConfig.read F) .plain).both
        (RecordReader.optional "stateDiff" (StateDiff.read F) .empty))).map
      fun (i, c, d) => ⟨i, c, d⟩)

/-- The document as a JSON value. -/
def toJson (d : BlueprintDocument) : Json.Value :=
  .object [("id", .string d.id), ("config", d.config.toJson), ("stateDiff", d.diff.toJson)]

/-- Reads a document from a text; its identifier must not be blank. -/
def parse (text : String) : Except Failure BlueprintDocument := do
  let d ← (Yaml.decodeText read text).mapError fun f =>
    Failure.invalidBlueprint ("cannot parse document: " ++ f.message)
  if Text.isBlankString d.id then throw (.invalidBlueprint "document has an empty id")
  return d

/-- The document in what is found at a path. -/
def ofLook (path : String) (l : Look) : Except Failure BlueprintDocument := do
  let text ← l.readText.mapError Failure.io
  (parse text).mapError fun f => .invalidBlueprint (path ++ ": " ++ f.message)

/-- The same document, with nothing to be applied. -/
def rehearsed (d : BlueprintDocument) : BlueprintDocument :=
  { d with config := { d.config with dryRun := true } }

/-- The blueprint as it is before it is stored; the diff is not taken over. -/
def toBlueprint (d : BlueprintDocument) : Blueprint := .fresh d.id d.config

end BlueprintDocument
end BlueprintControl
