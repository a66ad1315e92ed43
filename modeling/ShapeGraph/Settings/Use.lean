import ShapeGraph.Files.Load
import ShapeGraph.Settings.Session

namespace ShapeGraph

inductive OpenError
  | settings
  | load (e : Files.LoadError)

namespace Session

def envFile (s : Session) (t : Files.Tree) : Option String :=
  match t.readText s.here (Files.Path.parse ".env") with
  | .ok text => some text
  | .error _ => none

def validate (s : Session) (envFile : Option String) (m : Model) (references : Option Bool) :
    Option (Report Fault) × Session :=
  let (loaded, s) := s.load envFile
  (loaded.settings.map fun settings => m.validate (settings.checksWith references), s)

def openModel (s : Session) (t : Files.Tree) (path : Option Files.Path) :
    Except OpenError Model × Session :=
  match path with
  | some p => ((t.load s.here p).mapError .load, s)
  | none =>
    let (loaded, s) := s.load (s.envFile t)
    match loaded.settings with
    | none => (.error .settings, s)
    | some settings => ((t.load s.here (Files.Path.parse settings.modelPath)).mapError .load, s)

end Session

end ShapeGraph
