import ShapeGraph.Shape.Basic

/-!
The references that leave a node. They are read off the node as it is and never followed, so models
may be cyclic.
-/

namespace ShapeGraph

inductive Address
  | field (name : String)
  | item (name : String) (index : Nat)
  | entry (name key : String)
  deriving DecidableEq, Repr

def Address.text : Address → String
  | .field name => name
  | .item name index => s!"{name}[{index}]"
  | .entry name key => name ++ "." ++ key

structure Edge where
  address : Address
  target : String
  deriving DecidableEq, Repr

namespace Kind

def memberFields : Kind → List String
  | .list | .set => ["member"]
  | .map => ["key", "value"]
  | _ => []

def hasMembers : Kind → Bool
  | .struct | .union => true
  | _ => false

def referenceFields : Kind → List String
  | .operation => ["input", "output"]
  | .resource => Lifecycle.all.map Lifecycle.name
  | _ => []

def referenceLists : Kind → List String
  | .struct | .union => ["mixins"]
  | .service => ["operations", "resources", "errors"]
  | .operation => ["errors"]
  | .resource => ["operations", "collectionOperations", "resources"]
  | _ => []

def referenceMaps : Kind → List String
  | .resource => ["identifiers", "properties"]
  | _ => []

end Kind

namespace Edge

def toTarget (name : String) (target : Option String) : List Edge :=
  (target.map fun target => ⟨.field name, target⟩).toList

def toTargets (name : String) (targets : List String) : List Edge :=
  targets.zipIdx.map fun (target, i) => ⟨.item name i, target⟩

def toEntries (name : String) (targets : Fields String) : List Edge :=
  targets.map fun (key, target) => ⟨.entry name key, target⟩

open Layered

variable {α : Type} [Layered α]

def ofMember (v : α) (name : String) : List Edge :=
  toTarget name ((get? v name).bind memberTarget?)

def ofMembers (v : α) : List Edge := toEntries "members" (mapOf memberTarget? v "members")

def ofField (v : α) (name : String) : List Edge := toTarget name ((get? v name).bind target?)

/-- References of a list are counted without the items that are none. -/
def ofList (v : α) (name : String) : List Edge := toTargets name (targetsOf v name)

def ofMap (v : α) (name : String) : List Edge := toEntries name (mapOf target? v name)

def ofKind (v : α) (k : Kind) : List Edge :=
  k.memberFields.flatMap (ofMember v)
    ++ (if k.hasMembers then ofMembers v else [])
    ++ k.referenceFields.flatMap (ofField v)
    ++ k.referenceLists.flatMap (ofList v)
    ++ k.referenceMaps.flatMap (ofMap v)

end Edge

def Layered.edges {α : Type} [Layered α] (v : α) : List Edge :=
  match kind? v with
  | none => []
  | some k => Edge.ofKind v k

def Json.edges (v : Json) : List Edge := Layered.edges v

def Graph.edges (g : Graph) (v : Fin g.size) : List Edge := Layered.edges v

end ShapeGraph
