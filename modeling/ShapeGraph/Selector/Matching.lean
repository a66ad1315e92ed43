import ShapeGraph.Model.Basic
import ShapeGraph.Selector.Reader
import ShapeGraph.Shape.Edge

/-!
The shapes that a selector selects: those that end a chain of references whose shapes meet the steps
of one of the alternatives. They are listed in the order of the model, each once.
-/

namespace ShapeGraph

namespace Comparison

def occursIn (needle : List Char) : List Char → Bool
  | [] => needle.isEmpty
  | c :: rest => needle.isPrefixOf (c :: rest) || occursIn needle rest

def holds (op : Comparison) (actual expected : String) : Bool :=
  match op with
  | .equal => actual = expected
  | .unequal => actual ≠ expected
  | .startsWith => expected.toList.isPrefixOf actual.toList
  | .endsWith => expected.toList.isSuffixOf actual.toList
  | .contains => occursIn expected.toList actual.toList

def holdsOf (op : Comparison) (actual : Option String) (expected : String) : Bool :=
  match actual with
  | some actual => op.holds actual expected
  | none => op = .unequal

theorem occursIn_iff {needle cs : List Char} : occursIn needle cs ↔ needle <:+: cs := by
  induction cs with
  | nil => simp [occursIn]
  | cons c rest ih => simp [occursIn, ih, List.infix_cons_iff]

end Comparison

def IdPart.of (part : IdPart) (id : String) : Option String :=
  match part with
  | .ns => Spelling.ns? id
  | .name => some (Spelling.name id)

def Json.statesKind (node : Json) (k : Kind) : Bool := (node.getD "type").str? = some k.name

mutual

def Predicate.holds (id : String) (node : Json) : Predicate → Bool
  | .any => true
  | .kind k => node.statesKind k
  | .trait traitId => Applied.has (node.getD "traits") traitId
  | .attribute part comparison value => comparison.holdsOf (part.of id) value
  | .not compound => !Predicate.allHold id node compound

def Predicate.allHold (id : String) (node : Json) : List Predicate → Bool
  | [] => true
  | p :: ps => p.holds id node && Predicate.allHold id node ps

end

namespace Selector

def meets (compound : Compound) (id : String) (node : Json) : Bool :=
  Predicate.allHold id node compound

def neighbours (nodes current : Fields Json) : Fields Json :=
  let targets := current.flatMap fun (_, node) => node.edges.map Edge.target
  nodes.filter fun (id, _) => targets.contains id

def follow (nodes : Fields Json) : Fields Json → List Compound → Fields Json
  | current, [] => current
  | current, step :: steps =>
    follow nodes ((neighbours nodes current).filter fun (id, node) => meets step id node) steps

def evaluateRoute (nodes : Fields Json) : Route → Fields Json
  | [] => []
  | step :: steps => follow nodes (nodes.filter fun (id, node) => meets step id node) steps

end Selector

def Model.select (m : Model) (s : Selector) : Fields Json :=
  let matched := s.alternatives.flatMap fun route => (Selector.evaluateRoute m.nodes route).keys
  m.nodes.filter fun (id, _) => matched.contains id

def Model.selectText (m : Model) (selector : Json) : Except Selector.Rejection (Fields Json) :=
  (Selector.ofJson selector).map m.select

end ShapeGraph
