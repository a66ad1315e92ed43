import ShapeGraph.Files.Path
import ShapeGraph.Text.Cut

namespace ShapeGraph.Files

inductive Entry
  | file (bytes : ByteArray)
  | directory

structure Tree where
  entries : List (List String × Entry)

inductive AccessError
  | missing (path : Path)
  | isDirectory (path : Path)
  | notDirectory (path : Path)
  | notUtf8 (path : Path)
  deriving DecidableEq, Repr

namespace Tree

def entryAt? (t : Tree) : List String → Option Entry
  | [] => some .directory
  | place => (t.entries.find? fun (p, _) => p = place).map Prod.snd

def isDirectory (t : Tree) (place : List String) : Bool :=
  match t.entryAt? place with
  | some .directory => true
  | _ => false

def above (place : List String) : List (List String) :=
  (List.range place.length).map place.take

def put (t : Tree) (place : List String) (e : Entry) : Tree :=
  if (t.entryAt? place).isSome then t else ⟨t.entries ++ [(place, e)]⟩

def add (t : Tree) (place : List String) (e : Entry) : Tree :=
  ((above place).foldl (fun t p => t.put p .directory) t).put place e

def descend (t : Tree) (p : Path) (place : List String) :
    List String → Except AccessError (List String × Entry)
  | [] =>
    match t.entryAt? place with
    | some e => .ok (place, e)
    | none => .error (.missing p)
  | name :: names =>
    match t.entryAt? place with
    | some .directory => descend t p (if name = ".." then place.dropLast else place ++ [name]) names
    | some (.file _) => .error (.notDirectory p)
    | none => .error (.missing p)

def access (t : Tree) (here : List String) (p : Path) : Except AccessError (List String × Entry) :=
  match p.start with
  | .here => t.descend p here p.names
  | _ => t.descend p [] p.names

def isJsonName (name : String) : Bool := ".json".toList.isSuffixOf name.toList

/-- The ways down from a directory to the entries below it whose name ends in `.json`, in the order
of their names. -/
def jsonBelow (t : Tree) (place : List String) : List (List String) :=
  let ways := t.entries.filterMap fun (p, _) => Text.after? place p
  (ways.filter fun way => way.getLast?.any isJsonName).mergeSort fun a b => decide (¬ b < a)

def unixLines : List Char → List Char
  | '\r' :: '\n' :: rest => '\n' :: unixLines rest
  | '\r' :: rest => '\n' :: unixLines rest
  | c :: rest => c :: unixLines rest
  | [] => []

def readText (t : Tree) (here : List String) (p : Path) : Except AccessError String :=
  match t.access here p with
  | .error e => .error e
  | .ok (_, .directory) => .error (.isDirectory p)
  | .ok (_, .file bytes) =>
    match String.fromUTF8? bytes with
    | some text => .ok (String.ofList (unixLines text.toList))
    | none => .error (.notUtf8 p)

end Tree

end ShapeGraph.Files
