import ShapeGraph.ShapeId.Basic

namespace ShapeGraph.Spelling

def isAbsolute (id : String) : Bool := id.toList.contains '#'

def isRelative (id : String) : Bool := !isAbsolute id

def split (id : String) : Option String × String :=
  match Text.cut '#' id with
  | none => (none, id)
  | some (ns, name) => (if ns = "" then none else some ns, name)

def ns? (id : String) : Option String := (split id).1

def name (id : String) : String := (split id).2

def qualify (ns name : String) : String := ns ++ "#" ++ name

def toAbsolute (id default : String) : String := if isAbsolute id then id else qualify default id

def equalIn (a b default : String) : Bool := toAbsolute a default = toAbsolute b default

def isIn (id ns : String) : Bool := ns? id = some ns

def namespaces (ids : List String) : List String := (ids.filterMap ns?).eraseDups

def restrict (ids : List String) (ns : String) : List String := ids.filter (isIn · ns)

/-- Relative ids come first; then the namespace counts before the name. -/
def precedes (a b : String) : Bool :=
  match ns? a, ns? b with
  | none, none => name a ≤ name b
  | none, some _ => true
  | some _, none => false
  | some m, some n => m < n || (m = n && name a ≤ name b)

def sort (ids : List String) : List String := ids.mergeSort precedes

end ShapeGraph.Spelling
