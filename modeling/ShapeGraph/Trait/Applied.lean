import ShapeGraph.Text.Casing
import ShapeGraph.Trait.Prelude

namespace ShapeGraph

namespace Applied

/-- The spelling under which a trait is applied: as asked for, else in full, else in short. -/
def key? (traits : Fields Json) (id : String) : Option String :=
  let full := TraitId.resolve id
  if traits.has id then some id
  else if traits.has full then some full
  else (TraitId.shortName? full).filter traits.has

def get? (traits : Fields Json) (id : String) : Option Json :=
  (key? traits id).bind traits.get?

def value? (traits : Json) (id : String) : Option Json :=
  traits.fields?.bind fun fs => get? fs id

def has (traits : Json) (id : String) : Bool := (value? traits id).isSome

end Applied

structure HttpTrait where
  method : String
  uri : String
  code : Option Int
  deriving DecidableEq, Repr

/-- The method is put in upper case; a code that is no integer is left out. -/
def HttpTrait.ofJson? (v : Json) : Option HttpTrait := do
  guard v.isObject
  let method ← (v.getD "method").str?
  let uri ← (v.getD "uri").str?
  pure ⟨Text.upper method, uri, (v.getD "code").int?⟩

structure PaginatedTrait where
  inputToken : Option String
  outputToken : Option String
  items : Option String
  pageSize : Option String
  deriving DecidableEq, Repr

def PaginatedTrait.ofJson? (v : Json) : Option PaginatedTrait := do
  guard v.isObject
  pure ⟨(v.getD "inputToken").str?, (v.getD "outputToken").str?, (v.getD "items").str?,
    (v.getD "pageSize").str?⟩

end ShapeGraph
