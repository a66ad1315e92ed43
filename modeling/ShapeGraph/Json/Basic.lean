import ShapeGraph.Fields
import ShapeGraph.Number.Binary64

/-!
JSON values. Integers are unbounded and differ from numbers with a fraction or an exponent; the
entries of an object keep their order.
-/

namespace ShapeGraph

inductive Json
  | null
  | bool (b : Bool)
  | int (n : Int)
  | real (x : Binary64)
  | str (s : String)
  | arr (items : List Json)
  | obj (fields : List (String × Json))
  deriving Inhabited

namespace Json

def fields? : Json → Option (Fields Json)
  | .obj fs => some fs
  | _ => none

def fieldsD (v : Json) : Fields Json := v.fields?.getD []

def items? : Json → Option (List Json)
  | .arr xs => some xs
  | _ => none

def str? : Json → Option String
  | .str s => some s
  | _ => none

def int? : Json → Option Int
  | .int n => some n
  | _ => none

def isObject (v : Json) : Bool := v.fields?.isSome

def get? (v : Json) (key : String) : Option Json := v.fields?.bind (Fields.get? · key)

/-- The entry of an object, where a missing entry and a null are the same. -/
def getD (v : Json) (key : String) : Json := (v.get? key).getD .null

def has (v : Json) (key : String) : Bool := (v.get? key).isSome

mutual

def Distinct : Json → Prop
  | .arr xs => DistinctItems xs
  | .obj fs => Fields.Distinct fs ∧ DistinctFields fs
  | _ => True

def DistinctItems : List Json → Prop
  | [] => True
  | x :: xs => x.Distinct ∧ DistinctItems xs

def DistinctFields : List (String × Json) → Prop
  | [] => True
  | (_, v) :: fs => v.Distinct ∧ DistinctFields fs

end

@[simp] theorem get?_obj (fs : List (String × Json)) (key : String) :
    (Json.obj fs).get? key = Fields.get? fs key := rfl

end Json

end ShapeGraph
