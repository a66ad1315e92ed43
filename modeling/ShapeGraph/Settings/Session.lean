import ShapeGraph.Settings.Basic

/-!
Loading settings in the course of a program: the first load that succeeds is remembered until the
memory is cleared. A file of variables fills in those that the environment does not set.
-/

namespace ShapeGraph

/-- The variables that the text of a file gives in an environment. -/
abbrev EnvReader := Environment → String → Fields String

structure Session where
  here : List String
  env : Environment
  cached : Option Settings
  places : Files.Places
  reader : EnvReader

structure Loaded where
  settings : Option Settings
  warnings : List SwitchWarning
  deriving DecidableEq, Repr

namespace Session

def start (here : List String) (env : Environment) (places : Files.Places) (reader : EnvReader) :
    Session :=
  ⟨here, env, none, places, reader⟩

def setVariables (s : Session) (vars : Fields String) : Session :=
  { s with env := Fields.merge s.env vars }

def unsetVariables (s : Session) (keys : List String) : Session :=
  { s with env := keys.foldl Fields.erase s.env }

def clear (s : Session) : Session := { s with cached := none }

def fillIn (env : Environment) (vars : Fields String) : Environment :=
  vars.foldl (fun env (k, v) => if Fields.has env k then env else Fields.set env k v) env

/-- What is filled in from the variables of the file stays set, also if the load fails. -/
def loadGiven (s : Session) (vars : Fields String) : Loaded × Session :=
  match s.cached with
  | some settings => (⟨some settings, []⟩, s)
  | none =>
    let env := fillIn s.env vars
    let settings := Settings.ofEnvironment? env s.places
    (⟨settings, Settings.warnings env s.places⟩, { s with env, cached := settings })

def given (s : Session) (envFile : Option String) : Fields String :=
  (envFile.map (s.reader s.env)).getD []

def load (s : Session) (envFile : Option String) : Loaded × Session := s.loadGiven (s.given envFile)

end Session

end ShapeGraph
