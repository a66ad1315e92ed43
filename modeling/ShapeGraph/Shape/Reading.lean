import ShapeGraph.Shape.Basic
import ShapeGraph.Value.Data

namespace ShapeGraph

section

variable {m : Type → Type} [Monad m] {σ τ : Type} (f : τ → m σ)

def Member.mapTraits (x : Member τ) : m (Member σ) := do return ⟨x.target, ← f x.traits⟩

def Form.mapTraits : Form τ → m (Form σ)
  | .simple k => pure (.simple k)
  | .list x => do return .list (← x.mapTraits f)
  | .set x => do return .set (← x.mapTraits f)
  | .map key value => do
    let key ← key.mapTraits f
    return .map key (← value.mapTraits f)
  | .struct members mixins => do
    let members ← members.mapM fun (name, x) => do return (name, ← x.mapTraits f)
    return .struct members mixins
  | .union members => do
    let members ← members.mapM fun (name, x) => do return (name, ← x.mapTraits f)
    return .union members
  | .service s => pure (.service s)
  | .operation o => pure (.operation o)
  | .resource r => pure (.resource r)

def Shape.mapTraits (s : Shape τ) : m (Shape σ) := do
  let form ← s.form.mapTraits f
  return ⟨s.id, ← f s.traits, form⟩

end

/-- The values of a host and those that are built of them. -/
inductive Built (α : Type)
  | old (v : α)
  | new (l : Layer (Built α))

namespace Built

variable {α : Type}

instance layered [Layered α] : Layered (Built α) where
  layer
    | .old v => (Layered.layer v).map .old
    | .new l => l

def writer : Writer (List (Key × Built α)) (Built α) where
  text s := .new (.text s)
  list xs := .new (.list xs)
  object fs := .new (.mapping (fs.map fun (key, x) => (.text key, x)))
  traits? traits := if traits.isEmpty then none else some (.new (.mapping traits))

end Built

namespace Graph

variable (g : Graph)

def shape? (id : String) (v : Fin g.size) : Option (Shape (List (Key × Fin g.size))) :=
  Shape.read Layered.traits id v

def dataTraits (traits : List (Key × Fin g.size)) : Except DataFlaw (Fields Json) :=
  traits.mapM fun (key, x) => key.entryName.bind fun name => (g.data x).map (name, ·)

def dataShape (s : Shape (List (Key × Fin g.size))) : Except DataFlaw Shape :=
  s.mapTraits g.dataTraits

end Graph

end ShapeGraph
