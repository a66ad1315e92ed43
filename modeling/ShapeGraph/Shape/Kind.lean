namespace ShapeGraph

inductive SimpleKind
  | blob
  | boolean
  | string
  | byte
  | short
  | integer
  | long
  | float
  | double
  | bigInteger
  | bigDecimal
  | timestamp
  | document
  deriving DecidableEq, Repr

inductive Kind
  | simple (k : SimpleKind)
  | list
  | set
  | map
  | struct
  | union
  | service
  | operation
  | resource
  deriving DecidableEq, Repr

namespace SimpleKind

def all : List SimpleKind :=
  [.blob, .boolean, .string, .byte, .short, .integer, .long, .float, .double, .bigInteger,
    .bigDecimal, .timestamp, .document]

def name : SimpleKind → String
  | .blob => "blob"
  | .boolean => "boolean"
  | .string => "string"
  | .byte => "byte"
  | .short => "short"
  | .integer => "integer"
  | .long => "long"
  | .float => "float"
  | .double => "double"
  | .bigInteger => "bigInteger"
  | .bigDecimal => "bigDecimal"
  | .timestamp => "timestamp"
  | .document => "document"

end SimpleKind

namespace Kind

def all : List Kind :=
  SimpleKind.all.map simple
    ++ [.list, .set, .map, .struct, .union, .service, .operation, .resource]

def name : Kind → String
  | .simple k => k.name
  | .list => "list"
  | .set => "set"
  | .map => "map"
  | .struct => "structure"
  | .union => "union"
  | .service => "service"
  | .operation => "operation"
  | .resource => "resource"

def ofName? (s : String) : Option Kind := all.find? fun k => k.name = s

def isSimple : Kind → Bool
  | .simple _ => true
  | _ => false

theorem mem_all (k : Kind) : k ∈ all := by
  rcases k with k | _ <;> (try cases k) <;> decide

@[simp] theorem ofName?_name (k : Kind) : ofName? k.name = some k := by
  rcases k with k | _ <;> (try cases k) <;> decide

theorem name_of_ofName? {s : String} {k : Kind} (h : ofName? s = some k) : k.name = s := by
  simpa using List.find?_some h

theorem ofName?_eq_some_iff {s : String} {k : Kind} : ofName? s = some k ↔ k.name = s := by
  constructor
  · intro h
    exact name_of_ofName? h
  · intro h
    rw [← h, ofName?_name]

end Kind

inductive Lifecycle
  | create
  | put
  | read
  | update
  | delete
  | list
  deriving DecidableEq, Repr

namespace Lifecycle

def all : List Lifecycle := [.create, .put, .read, .update, .delete, .list]

def name : Lifecycle → String
  | .create => "create"
  | .put => "put"
  | .read => "read"
  | .update => "update"
  | .delete => "delete"
  | .list => "list"

end Lifecycle

end ShapeGraph
