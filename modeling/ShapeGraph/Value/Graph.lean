import ShapeGraph.Value.Layer

/-!
Values with identity: cells that name other cells, so that parts may be shared and containers may
contain themselves.
-/

namespace ShapeGraph

structure Graph where
  size : Nat
  cell : Fin size → Layer (Fin size)

namespace Graph

/-- The graph of a table of cells. A number outside the table names the cell it stands in. -/
def ofCells (cells : Array (Layer Nat)) : Graph where
  size := cells.size
  cell i := cells[i].map fun j => if h : j < cells.size then ⟨j, h⟩ else i

end Graph

end ShapeGraph
