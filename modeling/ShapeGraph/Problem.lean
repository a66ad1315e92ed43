import ShapeGraph.Json.Basic

namespace ShapeGraph

structure Statement where
  code : String
  message : String
  context : Option Json

structure Problem (κ : Type) where
  path : String
  cause : κ
  deriving DecidableEq, Repr

namespace Problem

variable {κ μ : Type}

def map (f : κ → μ) (p : Problem κ) : Problem μ := ⟨p.path, f p.cause⟩

def moveTo (path : String) (p : Problem κ) : Problem κ := { p with path }

def below (outer : String) (p : Problem κ) : Problem κ := p.moveTo (outer ++ "." ++ p.path)

@[simp] theorem path_map (f : κ → μ) (p : Problem κ) : (p.map f).path = p.path := rfl

@[simp] theorem cause_map (f : κ → μ) (p : Problem κ) : (p.map f).cause = f p.cause := rfl

@[simp] theorem cause_below (outer : String) (p : Problem κ) : (p.below outer).cause = p.cause :=
  rfl

end Problem

structure Report (κ : Type) where
  problems : List (Problem κ)
  deriving DecidableEq, Repr

namespace Report

variable {κ : Type}

def clean : Report κ := ⟨[]⟩

def isValid (r : Report κ) : Bool := r.problems.isEmpty

def causes (r : Report κ) : List κ := r.problems.map Problem.cause

def file (p : Problem κ) (groups : Fields (List (Problem κ))) : Fields (List (Problem κ)) :=
  groups.set p.path ((groups.get? p.path).getD [] ++ [p])

def byPath (r : Report κ) : Fields (List (Problem κ)) :=
  r.problems.foldl (fun groups p => file p groups) []

end Report

end ShapeGraph
