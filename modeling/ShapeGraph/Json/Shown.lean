import ShapeGraph.Json.Basic
import ShapeGraph.Number.Shortest
import ShapeGraph.Text.Quoted

namespace ShapeGraph.Json

mutual

def shown : Json → String
  | .null => "None"
  | .bool true => "True"
  | .bool false => "False"
  | .int n => toString n
  | .real x => x.text "inf"
  | .str s => Text.quoted s
  | .arr [] => "[]"
  | .arr (x :: xs) => "[" ++ shown x ++ shownItems xs ++ "]"
  | .obj [] => "\x7b\x7d"
  | .obj ((k, v) :: fs) => "\x7b" ++ Text.quoted k ++ ": " ++ shown v ++ shownFields fs ++ "\x7d"

def shownItems : List Json → String
  | [] => ""
  | x :: xs => ", " ++ shown x ++ shownItems xs

def shownFields : List (String × Json) → String
  | [] => ""
  | (k, v) :: fs => ", " ++ Text.quoted k ++ ": " ++ shown v ++ shownFields fs

end

def display : Json → String
  | .str s => s
  | v => v.shown

end ShapeGraph.Json
