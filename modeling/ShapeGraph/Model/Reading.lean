import ShapeGraph.Json.Reader
import ShapeGraph.Model.Basic
import ShapeGraph.Value.Layer

namespace ShapeGraph

structure Refusal where
  message : String
  details : Fields Json

def Refusal.text (r : Refusal) : String :=
  match r.details with
  | [] => r.message
  | details =>
    r.message ++ " (" ++ ", ".intercalate (details.map fun (k, v) => k ++ "=" ++ v.shown) ++ ")"

inductive FormatFlaw
  | notObject
  | version
  | shapes
  | metadata
  deriving DecidableEq, Repr

def FormatFlaw.reason : FormatFlaw → String
  | .notObject => "model must be a JSON object"
  | .version => "'smithy' must be a string"
  | .shapes => "'shapes' must be a JSON object"
  | .metadata => "'metadata' must be a JSON object"

inductive ReadError
  | notJson (text : String) (failure : Json.Failure)
  | notInput (given : Json)
  | notModel (document : Json) (flaw : FormatFlaw)

def ReadError.refusal : ReadError → Refusal
  | .notJson text failure =>
    ⟨"Failed to parse JSON input",
      [("original_error", .str (failure.message text)), ("input_type", .str "string"),
        ("input_length", .int text.length)]⟩
  | .notInput given =>
    ⟨"Input must be a JSON string or object",
      [("input_type", .str given.typeName), ("received_value", given)]⟩
  | .notModel document flaw =>
    ⟨"Invalid Smithy model format",
      [("reason", .str flaw.reason), ("received_type", .str document.typeName)]⟩

namespace Model

def isContainer : Json → Bool
  | .obj _ | .arr _ => true
  | _ => false

/-- Arrays pass here for objects; validation tells them apart. -/
def formatFlaw? (document : Json) : Option FormatFlaw :=
  if !document.isObject then some .notObject
  else if (document.getD "smithy").str?.isNone then some .version
  else if !isContainer (document.getD "shapes") then some .shapes
  else if !(document.get? "metadata").all isContainer then some .metadata
  else none

def accept (document : Json) : Except ReadError Model :=
  match formatFlaw? document with
  | some flaw => .error (.notModel document flaw)
  | none => .ok (ofDocument document)

def parse (text : String) : Except ReadError Model :=
  match Json.ofText text with
  | .error failure => .error (.notJson text failure)
  | .ok document => accept document

def read : Json → Except ReadError Model
  | .str text => parse text
  | .obj fields => accept (.obj fields)
  | v => .error (.notInput v)

end Model

end ShapeGraph
