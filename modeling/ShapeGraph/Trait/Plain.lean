import ShapeGraph.Trait.Fault
import ShapeGraph.Value.Graph

namespace ShapeGraph.Graph

variable (g : Graph)

/-- The problems below `v` in depth-first order. `fresh` holds the cells that do not enclose `v`;
a container is entered once along a path. -/
def impurities (fresh : List (Fin g.size)) (path : String) (v : Fin g.size) :
    List (Problem TraitFault) :=
  match g.cell v with
  | .callable _ => [⟨path, .callable⟩]
  | .foreign typeName => [⟨path, .foreign typeName⟩]
  | .list items | .tuple items =>
    if _ : v ∈ fresh then
      items.zipIdx.flatMap fun (item, i) => impurities (fresh.erase v) s!"{path}[{i}]" item
    else [⟨path, .circular⟩]
  | .mapping entries =>
    if _ : v ∈ fresh then
      entries.flatMap fun (key, item) =>
        match key with
        | .text name => impurities (fresh.erase v) (path ++ "." ++ name) item
        | key => [⟨path ++ "." ++ key.display, .keyType⟩]
    else [⟨path, .circular⟩]
  | _ => []
termination_by fresh.length
decreasing_by
  all_goals
    have := List.length_erase_of_mem ‹v ∈ fresh›
    have := List.length_pos_of_mem ‹v ∈ fresh›
    omega

def plainProblems (path : String) (v : Fin g.size) : List (Problem TraitFault) :=
  g.impurities (List.finRange g.size) path v

end ShapeGraph.Graph
