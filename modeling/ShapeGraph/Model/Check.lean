import ShapeGraph.Model.Document
import ShapeGraph.Shape.Check
import ShapeGraph.Trait.Check

namespace ShapeGraph

inductive Fault
  | document (f : DocumentFault)
  | shape (f : ShapeFault)
  | trait (f : TraitFault)

def Fault.statement : Fault → Statement
  | .document f => f.statement
  | .shape f => f.statement
  | .trait f => f.statement

structure Checks where
  references : Bool
  traits : Bool
  memberTraits : Bool
  deriving DecidableEq, Repr

def Checks.all : Checks := ⟨true, true, true⟩

namespace Model

def scope (m : Model) (references : Bool) : Scope :=
  if references then Scope.ofIds m.ids else none

def shapeProblems (scope : Scope) (id : String) (node : Json) : List (Problem Fault) :=
  (ShapeCheck.checkJson scope id node).map (·.map .shape)

def appliedProblems (place : String) (traits : Json) : List (Problem Fault) :=
  traits.fieldsD.flatMap fun (traitId, value) =>
    (TraitCheck.checkJson traitId value).map fun p => (p.map .trait).below (place ++ ".traits")

def memberNodes (node : Json) : Fields Json :=
  let named := (node.getD "members").fieldsD.map fun (name, member) => ("members." ++ name, member)
  let slots := ["member", "key", "value"].map fun name => (name, node.getD name)
  (named ++ slots).filter fun (_, member) => member.isObject

def traitProblems (checks : Checks) (id : String) (node : Json) : List (Problem Fault) :=
  if checks.traits then
    appliedProblems id (node.getD "traits")
      ++ (if checks.memberTraits then
          (memberNodes node).flatMap fun (place, member) =>
            appliedProblems (id ++ "." ++ place) (member.getD "traits")
        else [])
  else []

def problems (m : Model) (checks : Checks) : List (Problem Fault) :=
  (DocumentCheck.check m).map (·.map .document)
    ++ m.nodes.flatMap (fun (id, node) => shapeProblems (m.scope checks.references) id node)
    ++ m.nodes.flatMap (fun (id, node) => traitProblems checks id node)

def validate (m : Model) (checks : Checks) : Report Fault := ⟨m.problems checks⟩

end Model

end ShapeGraph
