import ShapeGraph.Files.Tree
import ShapeGraph.Model.Merge
import ShapeGraph.Model.Reading
import ShapeGraph.Text.Quoted

namespace ShapeGraph.Files

inductive LoadError
  | access (e : AccessError)
  | read (e : ReadError)
  | noPath (p : Path)

def AccessError.message : AccessError → String
  | .missing p => "[Errno 2] No such file or directory: " ++ Text.quoted p.text
  | .isDirectory p => "[Errno 21] Is a directory: " ++ Text.quoted p.text
  | .notDirectory p => "[Errno 20] Not a directory: " ++ Text.quoted p.text
  | .notUtf8 p => "Not UTF-8: " ++ Text.quoted p.text

namespace Tree

def readModel (t : Tree) (here : List String) (p : Path) : Except LoadError Model :=
  match t.readText here p with
  | .error e => .error (.access e)
  | .ok text => (Model.parse text).mapError LoadError.read

def readModels (t : Tree) (here : List String) : List Path → Except LoadError (List Model)
  | [] => .ok []
  | p :: ps => (t.readModel here p).bind fun m => (t.readModels here ps).map (m :: ·)

def loadAll (t : Tree) (here : List String) (paths : List Path) : Except LoadError Model :=
  (t.readModels here paths).map Model.merge

/-- The model files that a path stands for. A file with another ending stands for none. -/
def modelFiles (t : Tree) (p : Path) : List String × Entry → List Path
  | (_, .file _) => if p.suffix = ".json" then [p] else []
  | (place, .directory) => (t.jsonBelow place).map p.append

def load (t : Tree) (here : List String) (p : Path) : Except LoadError Model :=
  match t.access here p with
  | .error _ => .error (.noPath p)
  | .ok found => t.loadAll here (t.modelFiles p found)

end Tree

def LoadError.message : LoadError → String
  | .access e => e.message
  | .read e => e.refusal.message
  | .noPath p => "Smithy model path not found: " ++ p.text

end ShapeGraph.Files
