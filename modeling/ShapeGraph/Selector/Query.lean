import ShapeGraph.Selector.Matching

namespace ShapeGraph

structure Query where
  found : Fields Json

namespace Query

def ofModel (m : Model) : Query := ⟨m.nodes⟩

def keep (q : Query) (p : String → Json → Bool) : Query :=
  ⟨q.found.filter fun (id, node) => p id node⟩

def kind (q : Query) (k : Option Kind) : Query := q.keep fun _ node => k.any node.statesKind

def trait (q : Query) (traitId : String) : Query :=
  q.keep fun _ node => Applied.has (node.getD "traits") traitId

def inNamespace (q : Query) (ns : String) : Query := q.keep fun id _ => Spelling.isIn id ns

def containing (q : Query) (part : String) : Query :=
  q.keep fun id _ => Comparison.contains.holds id part

def ids (q : Query) : List String := q.found.keys

def count (q : Query) : Nat := q.found.length

def first? (q : Query) : Option String := q.ids.head?

def types (q : Query) : List Json := q.found.map fun (_, node) => node.getD "type"

end Query

namespace Model

def selectKind (m : Model) (k : Option Kind) : Fields Json :=
  match k with
  | some k => m.select ⟨k.name, [[[.kind k]]]⟩
  | none => []

def selectTrait (m : Model) (traitId : String) : Fields Json :=
  ((Query.ofModel m).trait traitId).found

def selectNamespace (m : Model) (ns : String) : Fields Json :=
  ((Query.ofModel m).inNamespace ns).found

end Model

end ShapeGraph
