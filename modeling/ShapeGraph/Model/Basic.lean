import ShapeGraph.Json.Printer
import ShapeGraph.Shape.Basic
import ShapeGraph.Trait.Applied

/-!
Models: a version, optional metadata, and shapes by id. None of these is checked on the way in, so a
model may hold any JSON; what needs shapes finds none if they are no object.
-/

namespace ShapeGraph

/-- An entry that the document leaves out differs from a null. -/
structure Model where
  version : Json
  metadata : Option Json
  shapes : Option Json

inductive ModelError
  | noShapeMap
  | shapeNotFound (id : String)
  | noShapes
  deriving DecidableEq, Repr

def ModelError.message : ModelError → String
  | .noShapeMap => "Shapes must be an object"
  | .shapeNotFound id => "Shape not found: " ++ id
  | .noShapes => "Shapes collection is required"

namespace Model

def ofDocument (document : Json) : Model where
  version := document.getD "smithy"
  metadata := document.get? "metadata"
  shapes := document.get? "shapes"

def toDocument? (m : Model) : Option Json :=
  m.shapes.map fun shapes =>
    .obj (("smithy", m.version)
      :: (m.metadata.map fun metadata => ("metadata", metadata)).toList
      ++ [("shapes", shapes)])

def toText (m : Model) (pretty : Bool) : Except ModelError String :=
  match m.toDocument? with
  | some document => .ok (document.toText pretty)
  | none => .error .noShapes

def entries (m : Model) : Fields Json := (m.shapes.bind Json.fields?).getD []

def nodes (m : Model) : Fields Json := m.entries.filter fun (_, node) => node.isObject

def ids (m : Model) : List String := m.entries.keys

def has (m : Model) (id : String) : Bool := m.entries.has id

def node? (m : Model) (id : String) : Option Json := (m.entries.get? id).filter Json.isObject

def shape? (m : Model) (id : String) : Option Shape := (m.entries.get? id).bind (Shape.ofNode? id)

def shapesOfKind (m : Model) (k : Kind) : List Shape :=
  m.ids.filterMap fun id => (m.shape? id).filter fun s => s.kind = k

def members? (m : Model) (id : String) : Option (Fields Member) :=
  (m.shape? id).bind fun s =>
    match s.form with
    | .struct members _ | .union members => some members
    | _ => none

def traits? (m : Model) (id : String) : Option (Fields Json) := (m.node? id).map Json.traits

def trait? (m : Model) (id traitId : String) : Option Json :=
  (m.node? id).bind fun node => Applied.value? (node.getD "traits") traitId

def hasTrait (m : Model) (id traitId : String) : Bool := (m.trait? id traitId).isSome

def idsWithTrait (m : Model) (traitId : String) : List String := m.ids.filter (m.hasTrait · traitId)

def withEntries (m : Model) (entries : Fields Json) : Model :=
  { m with shapes := some (.obj entries) }

@[simp] theorem entries_withEntries (m : Model) (entries : Fields Json) :
    (m.withEntries entries).entries = entries := rfl

def addShape (m : Model) (id : String) (node : Json) : Except ModelError Model :=
  match m.shapes with
  | some (.obj entries) => .ok (m.withEntries (Fields.set entries id node))
  | _ => .error .noShapeMap

def removeShape? (m : Model) (id : String) : Option Model :=
  if m.has id then some (m.withEntries (m.entries.erase id)) else none

/-- A node with a trait applied. Traits that are no object are replaced; a null applies the trait
without a value. -/
def applyTrait (traitId : String) (value : Json) (node : Json) : Json :=
  let value := match value with
    | .null => .obj []
    | v => v
  .obj (node.fieldsD.set "traits" (.obj (node.traits.set traitId value)))

def addTrait (m : Model) (id traitId : String) (value : Json) : Except ModelError Model :=
  match m.node? id with
  | some node => .ok (m.withEntries (m.entries.set id (applyTrait traitId value node)))
  | none => .error (.shapeNotFound id)

end Model

end ShapeGraph
