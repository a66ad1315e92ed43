import ShapeGraph.Model.Basic
import ShapeGraph.Problem
import ShapeGraph.Text.Digit

namespace ShapeGraph

def supportedVersions : List String := ["1.0", "2.0"]

inductive DocumentFault
  | versionMissing
  | versionType
  | versionFormat (version : String)
  | versionUnsupported (version : String)
  | metadataArray
  | metadataType
  | shapesMissing
  | shapesArray
  | shapesType
  | shapesEmpty
  | shapeKey (key : String)
  | shapeType
  deriving DecidableEq, Repr

namespace DocumentFault

def code : DocumentFault → String
  | .versionMissing => "MISSING_VERSION"
  | .versionType => "INVALID_VERSION_TYPE"
  | .versionFormat _ => "INVALID_VERSION_FORMAT"
  | .versionUnsupported _ => "UNSUPPORTED_VERSION"
  | .metadataArray | .metadataType => "INVALID_METADATA_TYPE"
  | .shapesMissing => "MISSING_SHAPES"
  | .shapesArray | .shapesType => "INVALID_SHAPES_TYPE"
  | .shapesEmpty => "EMPTY_SHAPES"
  | .shapeKey _ => "INVALID_SHAPE_ID"
  | .shapeType => "INVALID_SHAPE_TYPE"

def message : DocumentFault → String
  | .versionMissing => "Smithy version is required"
  | .versionType => "Smithy version must be a string"
  | .versionFormat version =>
    "Invalid Smithy version format: \"" ++ version
      ++ "\". Expected format: \"X.Y\" (e.g., \"2.0\")"
  | .versionUnsupported version =>
    "Unsupported Smithy version: \"" ++ version ++ "\". Supported versions: "
      ++ ", ".intercalate supportedVersions
  | .metadataArray => "Metadata must be an object, not an array"
  | .metadataType => "Metadata must be an object"
  | .shapesMissing => "Shapes collection is required"
  | .shapesArray => "Shapes must be an object, not an array"
  | .shapesType => "Shapes must be an object"
  | .shapesEmpty => "Shapes collection cannot be empty"
  | .shapeKey key =>
    "Invalid shape ID format: \"" ++ key
      ++ "\". Expected format: \"namespace#ShapeName\" or \"ShapeName\""
  | .shapeType => "Shape must be an object"

def statement (f : DocumentFault) : Statement := ⟨f.code, f.message, none⟩

end DocumentFault

namespace ShapeKey

def startsWithLetter (part : Char → Bool) : List Char → Bool
  | [] => false
  | c :: rest => Text.isLetter c && rest.all part

def isName (cs : List Char) : Bool := startsWithLetter Text.isIdentifierPart cs

def isNamespace (cs : List Char) : Bool :=
  startsWithLetter (fun c => Text.isIdentifierPart c || c = '.') cs

def isValid (key : String) : Bool :=
  match Text.cutAt '#' key.toList with
  | none => isName key.toList
  | some (ns, name) => isNamespace ns && isName name

end ShapeKey

namespace DocumentCheck

abbrev Problems := List (Problem DocumentFault)

def isVersionFormat (version : String) : Bool :=
  match Text.cutAt '.' version.toList with
  | none => false
  | some (major, minor) =>
    !major.isEmpty && major.all Text.isDecimalDigit && !minor.isEmpty
      && minor.all Text.isDecimalDigit

def versionFault? : Json → Option DocumentFault
  | .null => some .versionMissing
  | .str version =>
    if version = "" then some .versionMissing
    else if !isVersionFormat version then some (.versionFormat version)
    else if version ∉ supportedVersions then some (.versionUnsupported version)
    else none
  | _ => some .versionType

def checkVersion (v : Json) : Problems := ((versionFault? v).map (⟨"smithy", ·⟩)).toList

def checkMetadata : Json → Problems
  | .obj _ => []
  | .arr _ => [⟨"metadata", .metadataArray⟩]
  | _ => [⟨"metadata", .metadataType⟩]

def checkEntry (key : String) (node : Json) : Problems :=
  (if ShapeKey.isValid key then [] else [⟨"shapes." ++ key, .shapeKey key⟩])
    ++ (if node.isObject then [] else [⟨"shapes." ++ key, .shapeType⟩])

def checkShapes : Option Json → Problems
  | none => [⟨"shapes", .shapesMissing⟩]
  | some (.obj []) => [⟨"shapes", .shapesEmpty⟩]
  | some (.obj entries) => entries.flatMap fun (key, node) => checkEntry key node
  | some (.arr _) => [⟨"shapes", .shapesArray⟩]
  | some _ => [⟨"shapes", .shapesType⟩]

def check (m : Model) : Problems :=
  checkVersion m.version ++ (m.metadata.map checkMetadata).getD [] ++ checkShapes m.shapes

def checkDocument (document : Json) : Problems :=
  checkVersion (document.getD "smithy")
    ++ ((document.get? "metadata").map checkMetadata).getD []
    ++ checkShapes (document.get? "shapes")

end DocumentCheck

end ShapeGraph
