import ShapeGraph.Json.Printer
import ShapeGraph.Value.Graph

/-!
Writing a value with identity as JSON. A tuple is written as an array, and a key that is no text as
the text that JSON has for it, if it has one; sharing is lost.
-/

namespace ShapeGraph

inductive DataFlaw
  | foreign (typeName : String)
  | circular
  deriving DecidableEq, Repr

def Key.entryName : Key → Except DataFlaw String
  | .text s => .ok s
  | .null => .ok (Json.null.toText false)
  | .bool b => .ok ((Json.bool b).toText false)
  | .int n => .ok ((Json.int n).toText false)
  | .real x => .ok ((Json.real x).toText false)
  | .other typeName _ => .error (.foreign typeName)

namespace Graph

variable (g : Graph)

/-- The JSON below `v`, or the first flaw in depth-first order. `fresh` holds the cells that do not
enclose `v`. -/
def dataBelow (fresh : List (Fin g.size)) (v : Fin g.size) : Except DataFlaw Json :=
  match g.cell v with
  | .null => .ok .null
  | .bool b => .ok (.bool b)
  | .int n => .ok (.int n)
  | .real x => .ok (.real x)
  | .text s => .ok (.str s)
  | .callable typeName | .foreign typeName => .error (.foreign typeName)
  | .list items | .tuple items =>
    if _ : v ∈ fresh then
      (items.mapM fun item => dataBelow (fresh.erase v) item).map .arr
    else .error .circular
  | .mapping entries =>
    if _ : v ∈ fresh then
      (entries.mapM fun (key, item) =>
        (Key.entryName key).bind fun name => (dataBelow (fresh.erase v) item).map (name, ·)).map .obj
    else .error .circular
termination_by fresh.length
decreasing_by
  all_goals
    have := List.length_erase_of_mem ‹v ∈ fresh›
    have := List.length_pos_of_mem ‹v ∈ fresh›
    omega

def data (v : Fin g.size) : Except DataFlaw Json := g.dataBelow (List.finRange g.size) v

end Graph

end ShapeGraph
