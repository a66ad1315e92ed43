import ShapeGraph.Catalog.Basic

namespace ShapeGraph

structure HttpBinding where
  http : HttpTrait
  headers : Fields String
  queryParams : Fields String
  labels : List String
  payload : Option String
  deriving DecidableEq

namespace HttpBinding

def text? (m : Member) (t : PreludeTrait) : Option String :=
  (Applied.get? m.traits t.id).bind Json.str?

def carries (t : PreludeTrait) (m : Member) : Bool := (Applied.get? m.traits t.id).isSome

def ofMembers (http : HttpTrait) (members : Fields Member) : HttpBinding where
  http := http
  headers := members.filterMap fun (name, m) => (text? m .httpHeader).map (name, ·)
  queryParams := members.filterMap fun (name, m) => (text? m .httpQuery).map (name, ·)
  labels := Fields.keys (members.filter fun (_, m) => carries .httpLabel m)
  payload := (Fields.keys (members.filter fun (_, m) => carries .httpPayload m)).getLast?

end HttpBinding

namespace Model

def operationTrait? (m : Model) (operationId : String) (t : PreludeTrait) : Option Json :=
  match m.shape? operationId with
  | some ⟨_, traits, .operation _⟩ => Applied.get? traits t.id
  | _ => none

def httpBinding? (m : Model) (operationId : String) : Option HttpBinding :=
  ((m.operationTrait? operationId .http).bind HttpTrait.ofJson?).map fun http =>
    let members := ((m.operationInput? operationId).bind m.struct?).getD []
    .ofMembers http members

def pagination? (m : Model) (operationId : String) : Option PaginatedTrait :=
  (m.operationTrait? operationId .paginated).bind PaginatedTrait.ofJson?

end Model

end ShapeGraph
