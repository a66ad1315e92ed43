import ShapeGraph.Model.Basic

namespace ShapeGraph.Model

def service? (m : Model) (id : String) : Option ServiceView :=
  match (m.shape? id).map Shape.form with
  | some (.service s) => some s
  | _ => none

def operation? (m : Model) (id : String) : Option OperationView :=
  match (m.shape? id).map Shape.form with
  | some (.operation o) => some o
  | _ => none

def resource? (m : Model) (id : String) : Option ResourceView :=
  match (m.shape? id).map Shape.form with
  | some (.resource r) => some r
  | _ => none

def struct? (m : Model) (id : String) : Option (Fields Member) :=
  match (m.shape? id).map Shape.form with
  | some (.struct members _) => some members
  | _ => none

def services (m : Model) : List String := (m.shapesOfKind .service).map Shape.id

def without (id : String) (ids : List String) : List String := ids.filter (· ≠ id)

theorem length_without_lt {id : String} {ids : List String} (h : id ∈ ids) :
    (without id ids).length < ids.length :=
  List.length_filter_lt_length_iff_exists.2 ⟨id, h, by simp⟩

/-- The resources met from the ids in `pending`, nearest first. `fresh` holds the ids of shapes that
have not been met; each is met once. -/
def walkResources (m : Model) (fresh pending : List String) : List (String × ResourceView) :=
  match pending with
  | [] => []
  | id :: rest =>
    if id ∈ fresh then
      match m.resource? id with
      | some r => (id, r) :: walkResources m (without id fresh) (rest ++ r.resources)
      | none => walkResources m (without id fresh) rest
    else walkResources m fresh rest
termination_by (fresh.length, pending.length)
decreasing_by
  · exact Prod.Lex.left _ _ (length_without_lt ‹id ∈ fresh›)
  · exact Prod.Lex.left _ _ (length_without_lt ‹id ∈ fresh›)
  · exact Prod.Lex.right _ (Nat.lt_succ_self _)

def serviceResources (m : Model) (serviceId : String) : List (String × ResourceView) :=
  match m.service? serviceId with
  | some s => m.walkResources m.ids s.resources
  | none => []

def resources (m : Model) (serviceId : String) : List String :=
  (m.serviceResources serviceId).map Prod.fst

end ShapeGraph.Model

namespace ShapeGraph

def ResourceView.allOperations (r : ResourceView) : List String :=
  r.lifecycle.map Prod.snd ++ r.operations ++ r.collectionOperations

namespace Model

def operations (m : Model) (serviceId : String) : List String :=
  match m.service? serviceId with
  | some s =>
    let inResources := (m.serviceResources serviceId).flatMap fun (_, r) => r.allOperations
    (s.operations ++ inResources).eraseDups.filter fun id => (m.operation? id).isSome
  | none => []

def looseName (name : String) : String :=
  String.ofList ((Text.lower name).toList.filter fun c => c ≠ '-' && c ≠ '_')

def namesLoosely (name id : String) : Bool :=
  looseName (Spelling.name id) = looseName name || Text.lower id = Text.lower name

/-- An operation by its id, else the first one whose name, or whose whole id up to case, fits. -/
def findOperation? (m : Model) (name : String) : Option String :=
  if (m.operation? name).isSome then some name
  else m.ids.find? fun id => namesLoosely name id && (m.operation? id).isSome

def operationInput? (m : Model) (operationId : String) : Option String :=
  ((m.operation? operationId).bind OperationView.input).filter fun id => (m.struct? id).isSome

def operationOutput? (m : Model) (operationId : String) : Option String :=
  ((m.operation? operationId).bind OperationView.output).filter fun id => (m.struct? id).isSome

def operationErrors (m : Model) (operationId : String) : List String :=
  match m.operation? operationId with
  | some o => o.errors.filter fun id => (m.struct? id).isSome
  | none => []

end Model

end ShapeGraph
