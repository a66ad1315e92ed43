import ShapeGraph.Settings.Session
import ShapeGraph.Text.Cut

/-!
Files of environment variables: a line `NAME=value` each, perhaps after `export`, the value perhaps
in quotes. Blank lines and lines that begin with `#` say nothing. In a value, `${NAME}` stands for
the value of another variable, and `${NAME:-text}` for `text` if there is none.
-/

namespace ShapeGraph.EnvFile

def lines (text : String) : List (List Char) := Text.pieces '\n' text.toList

def uncommented : List Char → List Char
  | [] => []
  | c :: rest =>
    match rest with
    | '#' :: _ => if Text.isBlank c then [] else c :: uncommented rest
    | _ => c :: uncommented rest

def unquote (cs : List Char) : List Char :=
  match cs with
  | '\'' :: rest => (Text.cutAt '\'' rest).elim cs Prod.fst
  | '"' :: rest => (Text.cutAt '"' rest).elim cs Prod.fst
  | _ => Text.stripBlank (uncommented cs)

def withoutExport (cs : List Char) : List Char :=
  match Text.after? "export".toList cs with
  | some (c :: rest) => if Text.isBlank c then Text.skipBlank rest else cs
  | _ => cs

def line? (cs : List Char) : Option (String × String) :=
  match Text.stripBlank cs with
  | [] => none
  | '#' :: _ => none
  | cs =>
    (Text.cutAt '=' (withoutExport cs)).map fun (name, value) =>
      (String.ofList (Text.stripBlank name), String.ofList (unquote (Text.stripBlank value)))

def reference? (cs : List Char) : Option (String × List Char) :=
  let name := cs.takeWhile (· ≠ ':')
  match cs.dropWhile (· ≠ ':') with
  | [] => some (String.ofList name, [])
  | ':' :: '-' :: other => some (String.ofList name, other)
  | _ => none

def value? (valueOf : String → Option String) (cs : List Char) : Option (List Char × Nat) :=
  (Text.after? ['$', '\x7b'] cs).bind fun rest =>
    (Text.cutAt '\x7d' rest).bind fun (inner, _) =>
      (reference? inner).map fun (name, other) =>
        (((valueOf name).map String.toList).getD other, inner.length + 3)

/-- Puts values in the place of references; `skip` characters belong to a reference that has been
replaced. -/
def expand (valueOf : String → Option String) : (skip : Nat) → List Char → List Char
  | _, [] => []
  | skip + 1, _ :: rest => expand valueOf skip rest
  | 0, c :: rest =>
    match value? valueOf (c :: rest) with
    | some (value, length) => value ++ expand valueOf (length - 1) rest
    | none => c :: expand valueOf 0 rest

/-- Adds what a line says. A name in a reference has the value that it has outside of the file, else
the one from the lines above. -/
def addLine (outside : String → Option String) (vars : Fields String) (line : String × String) :
    Fields String :=
  let valueOf (name : String) := (outside name).or (vars.get? name)
  vars.set line.1 (String.ofList (expand valueOf 0 line.2.toList))

def parse (outside : String → Option String) (text : String) : Fields String :=
  ((lines text).filterMap line?).foldl (addLine outside) []

end ShapeGraph.EnvFile

namespace ShapeGraph.Session

/-- A session on a machine without links, where files of variables have the form above. -/
def startPlain (here : List String) (env : Environment) : Session :=
  start here env (Files.places (fun _ => none) here) fun env => EnvFile.parse env.get?

end ShapeGraph.Session
