import ShapeGraph.ShapeId.Spelling

namespace ShapeGraph

inductive PreludeTrait
  | http
  | httpError
  | httpLabel
  | httpQuery
  | httpHeader
  | httpPayload
  | required
  | documentation
  | readonly
  | idempotent
  | paginated
  deriving DecidableEq, Repr

namespace TraitId

def prelude : String := "smithy.api"

/-- A trait id without a namespace belongs to the prelude. -/
def resolve (id : String) : String := Spelling.toAbsolute id prelude

def shortName? (id : String) : Option String :=
  match Text.cut '#' id with
  | some (ns, name) => if ns = prelude then some name else none
  | none => none

end TraitId

namespace PreludeTrait

def all : List PreludeTrait :=
  [.http, .httpError, .httpLabel, .httpQuery, .httpHeader, .httpPayload, .required,
    .documentation, .readonly, .idempotent, .paginated]

def name : PreludeTrait → String
  | .http => "http"
  | .httpError => "httpError"
  | .httpLabel => "httpLabel"
  | .httpQuery => "httpQuery"
  | .httpHeader => "httpHeader"
  | .httpPayload => "httpPayload"
  | .required => "required"
  | .documentation => "documentation"
  | .readonly => "readonly"
  | .idempotent => "idempotent"
  | .paginated => "paginated"

def id (t : PreludeTrait) : String := Spelling.qualify TraitId.prelude t.name

def ofId? (traitId : String) : Option PreludeTrait :=
  all.find? fun t => t.id = TraitId.resolve traitId

def isMarker : PreludeTrait → Bool
  | .httpLabel | .httpPayload | .readonly | .idempotent => true
  | _ => false

end PreludeTrait

end ShapeGraph
