import ShapeGraph.Model.Basic

namespace ShapeGraph.Model

def mixins (m : Model) (id : String) : List String :=
  match (m.shape? id).map Shape.form with
  | some (.struct _ mixins) => mixins
  | _ => []

structure Walk where
  seen : List String
  order : List String
  deriving DecidableEq, Repr

/-- Enters an id once, and leaves it after its mixins. Only shapes have mixins, so `fuel` for each
shape is enough. -/
def visit (m : Model) : (fuel : Nat) → Walk → String → Walk
  | 0, w, _ => w
  | fuel + 1, w, id =>
    if id ∈ w.seen then w
    else
      let w := (m.mixins id).foldl (m.visit fuel) { w with seen := id :: w.seen }
      { w with order := w.order ++ [id] }

def lineage (m : Model) (id : String) : List String :=
  (m.visit (m.ids.length + 2) ⟨[], []⟩ id).order

end ShapeGraph.Model
