import ShapeGraph.Text.Cut

/-!
Paths of files: where they start, and the names along them. Empty names and `.` are left out when a
path is read; `..` stays until the path is resolved.
-/

namespace ShapeGraph.Files

inductive Start
  | here
  | root
  | doubleRoot
  deriving DecidableEq, Repr

structure Path where
  start : Start
  names : List String
  deriving DecidableEq, Repr

namespace Path

def startOf (text : String) : Start :=
  match text.toList.takeWhile (· = '/') with
  | [] => .here
  | ['/', '/'] => .doubleRoot
  | _ => .root

def parse (text : String) : Path where
  start := startOf text
  names :=
    ((Text.pieces '/' text.toList).map String.ofList).filter fun name => name ≠ "" && name ≠ "."

def startText : Start → String
  | .here => ""
  | .root => "/"
  | .doubleRoot => "//"

def text (p : Path) : String :=
  match p.start, p.names with
  | .here, [] => "."
  | start, names => startText start ++ "/".intercalate names

def append (p : Path) (names : List String) : Path := { p with names := p.names ++ names }

def suffix (p : Path) : String :=
  match p.names.getLast? with
  | none => ""
  | some name =>
    let behind := name.toList.reverse.takeWhile (· ≠ '.')
    match name.toList.reverse.dropWhile (· ≠ '.') with
    | '.' :: _ :: _ => if behind.isEmpty then "" else String.ofList ('.' :: behind.reverse)
    | _ => ""

def walk (place : List String) : List String → List String
  | [] => place
  | name :: names => walk (if name = ".." then place.dropLast else place ++ [name]) names

def behindTilde? (s : String) : Option String :=
  (Text.after? ['~'] s.toList).map String.ofList

/-- A home directory that begins with `~` itself counts for none, and an empty one is the root. -/
def home? (homeOf : String → Option String) (account : String) : Option Path :=
  ((homeOf account).filter fun home => (behindTilde? home).isNone).map fun home =>
    if home = "" then ⟨.root, []⟩ else parse home

def expand? (homeOf : String → Option String) (p : Path) : Option Path :=
  match p.start, p.names with
  | .here, first :: names =>
    match behindTilde? first with
    | some account => (home? homeOf account).map (·.append names)
    | none => some p
  | _, _ => some p

def resolve (here : List String) (p : Path) : List String :=
  match p.start with
  | .here => walk here p.names
  | _ => walk [] p.names

end Path

def placeText (place : List String) : String := (Path.mk .root place).text

/-- Where paths lead on a machine, with the home directory that the environment names: nowhere if a
home directory is not found or links lead round in a circle. -/
abbrev Places := (home : Option String) → (path : String) → Option String

abbrev Homes := String → Option String

/-- Places on a machine without links, seen from the directory `here`. -/
def places (homes : Homes) (here : List String) : Places := fun home path =>
  let homeOf (account : String) := if account = "" then home.or (homes "") else homes account
  ((Path.parse path).expand? homeOf).map fun p => placeText (p.resolve here)

end ShapeGraph.Files
