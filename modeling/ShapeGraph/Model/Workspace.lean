import ShapeGraph.Model.Basic

/-!
A model in which several ids may name one and the same node, so that a trait applied under one of
them shows under all.
-/

namespace ShapeGraph

/-- Each group holds ids that name one node; the first group that an id is in counts. -/
structure Workspace where
  model : Model
  groups : List (List String)

namespace Workspace

def ofModel (m : Model) : Workspace := ⟨m, []⟩

def namesOf (w : Workspace) (id : String) : List String :=
  (w.groups.find? (·.contains id)).getD [id]

def leave (groups : List (List String)) (id : String) : List (List String) :=
  groups.map fun group => group.filter (· ≠ id)

def addShape (w : Workspace) (id : String) (node : Json) : Except ModelError Workspace :=
  (w.model.addShape id node).map fun m => ⟨m, leave w.groups id⟩

def copyShape (w : Workspace) (id source : String) : Except ModelError Workspace :=
  w.addShape id (((w.model.shape? source).map Shape.toNode).getD .null)

def aliasShape (w : Workspace) (id source : String) : Except ModelError Workspace :=
  match w.model.node? source with
  | none => w.addShape id .null
  | some node =>
    if id = source then .ok w
    else (w.addShape id node).map fun v => ⟨v.model, (id :: v.namesOf source) :: v.groups⟩

def removeShape? (w : Workspace) (id : String) : Option Workspace :=
  (w.model.removeShape? id).map fun m => ⟨m, leave w.groups id⟩

def addTrait (w : Workspace) (id traitId : String) (value : Json) :
    Except ModelError Workspace :=
  match w.model.node? id with
  | none => .error (.shapeNotFound id)
  | some _ =>
    let names := w.namesOf id
    let entries := w.model.entries.map fun (k, node) =>
      if names.contains k then (k, Model.applyTrait traitId value node) else (k, node)
    .ok { w with model := w.model.withEntries entries }

end Workspace

end ShapeGraph
