import ShapeGraph.Files.Tree
import ShapeGraph.Settings.Basic

namespace ShapeGraph

structure LogTarget where
  level : LogLevel
  file : Option Bool
  tree : Files.Tree

namespace LogTarget

def canOpen (t : Files.Tree) (place : List String) : Bool :=
  !t.isDirectory place
    && (Files.Tree.above place).all fun p => (t.entryAt? p).isNone || t.isDirectory p

def configure (t : Files.Tree) (s : Settings) : LogTarget :=
  match s.logFile with
  | none => ⟨s.level, none, t⟩
  | some path =>
    let place := (Files.Path.parse path).resolve []
    if canOpen t place then ⟨s.level, some true, t.add place (.file ByteArray.empty)⟩
    else ⟨s.level, some false, t⟩

end LogTarget

end ShapeGraph
