import ShapeGraph.Shape.Kind

namespace ShapeGraph

inductive IdPart
  | ns
  | name
  deriving DecidableEq, Repr

def IdPart.all : List IdPart := [.ns, .name]

def IdPart.word : IdPart → String
  | .ns => "namespace"
  | .name => "name"

inductive Comparison
  | equal
  | unequal
  | startsWith
  | endsWith
  | contains
  deriving DecidableEq, Repr

def Comparison.symbol : Comparison → String
  | .equal => "="
  | .unequal => "!="
  | .startsWith => "^="
  | .endsWith => "$="
  | .contains => "*="

inductive Predicate
  | any
  | kind (k : Kind)
  | trait (id : String)
  | attribute (part : IdPart) (comparison : Comparison) (value : String)
  | not (compound : List Predicate)
  deriving Repr

abbrev Compound := List Predicate

/-- Each step of a route selects among the direct neighbours of the step before it. -/
abbrev Route := List Compound

structure Selector where
  text : String
  alternatives : List Route

end ShapeGraph
