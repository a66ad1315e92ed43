import ShapeGraph.Model.Basic

/-!
One model from several: the first version stated, and the metadata and shapes of all, where a later
model replaces what an earlier one gave under the same name.
-/

namespace ShapeGraph.Model

def metadataFields (m : Model) : Fields Json := (m.metadata.bind Json.fields?).getD []

def statesVersion (m : Model) : Bool :=
  match m.version with
  | .null => false
  | _ => true

/-- Metadata without entries counts as absent. -/
def merge (models : List Model) : Model :=
  let metadata := models.foldl (fun acc m => Fields.merge acc m.metadataFields) []
  { version := ((models.find? statesVersion).map Model.version).getD .null
    metadata := if metadata.isEmpty then none else some (.obj metadata)
    shapes := some (.obj (models.foldl (fun acc m => Fields.merge acc m.entries) [])) }

end ShapeGraph.Model
