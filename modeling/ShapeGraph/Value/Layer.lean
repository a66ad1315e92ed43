import ShapeGraph.Json.Shown

namespace ShapeGraph

/-- What a host's mapping may have for a key. A key of any other type counts by the text that it is
shown as. -/
inductive Key
  | null
  | bool (b : Bool)
  | int (n : Int)
  | real (x : Binary64)
  | text (s : String)
  | other (typeName shown : String)
  deriving DecidableEq

namespace Key

/-- Keys are compared by value: a truth value is the integer one or zero, and a number with a
fraction is the integer that it equals. -/
def canonical : Key → Key
  | .bool b => .int b.toInt
  | .real x => (x.toInt?.map Key.int).getD (.real x)
  | k => k

def equal (a b : Key) : Bool := a.canonical = b.canonical

def display : Key → String
  | .null => Json.null.display
  | .bool b => (Json.bool b).display
  | .int n => (Json.int n).display
  | .real x => (Json.real x).display
  | .text s => s
  | .other _ shown => shown

def text? : Key → Option String
  | .text s => some s
  | _ => none

end Key

inductive Layer (α : Type)
  | null
  | bool (b : Bool)
  | int (n : Int)
  | real (x : Binary64)
  | text (s : String)
  | callable (typeName : String)
  | foreign (typeName : String)
  | list (items : List α)
  | tuple (items : List α)
  | mapping (entries : List (Key × α))

namespace Layer

variable {α β : Type}

/-- A repeated key keeps its place and its first spelling and takes the last value. -/
def setKey (key : Key) (value : α) : List (Key × α) → List (Key × α)
  | [] => [(key, value)]
  | (k, v) :: rest => if k.equal key then (k, value) :: rest else (k, v) :: setKey key value rest

def ofEntries (entries : List (Key × α)) : Layer α :=
  .mapping (entries.foldl (fun acc (k, v) => setKey k v acc) [])

def map (f : α → β) : Layer α → Layer β
  | .null => .null
  | .bool b => .bool b
  | .int n => .int n
  | .real x => .real x
  | .text s => .text s
  | .callable t => .callable t
  | .foreign t => .foreign t
  | .list xs => .list (xs.map f)
  | .tuple xs => .tuple (xs.map f)
  | .mapping es => .mapping (es.map fun (k, v) => (k, f v))

def typeName : Layer α → String
  | .null => "null"
  | .bool _ => "boolean"
  | .int _ | .real _ => "number"
  | .text _ => "string"
  | .list _ | .tuple _ => "array"
  | .mapping _ => "object"
  | .callable t | .foreign t => t

def textEntry? (name : String) : List (Key × α) → Option α
  | [] => none
  | (k, v) :: rest => if k = .text name then some v else textEntry? name rest

def isMapping : Layer α → Bool
  | .mapping _ => true
  | _ => false

def text? : Layer α → Option String
  | .text s => some s
  | _ => none

def items : Layer α → List α
  | .list xs => xs
  | _ => []

def entries : Layer α → List (Key × α)
  | .mapping es => es
  | _ => []

def isBlank : Layer α → Bool
  | .null => true
  | .text s => s = ""
  | _ => false

theorem entries_of_isBlank {l : Layer α} (h : l.isBlank) : l.entries = [] := by
  cases l with
  | mapping es => exact absurd h Bool.false_ne_true
  | _ => rfl

def compareInt? (n : Int) : Layer α → Option Ordering
  | .int m => some (compare m n)
  | .real x => some (x.compareInt n)
  | _ => none

end Layer

def Json.layer : Json → Layer Json
  | .null => .null
  | .bool b => .bool b
  | .int n => .int n
  | .real x => .real x
  | .str s => .text s
  | .arr xs => .list xs
  | .obj fs => .mapping (fs.map fun (k, v) => (.text k, v))

def Json.typeName (v : Json) : String := v.layer.typeName

end ShapeGraph
