import ShapeGraph.Problem
import ShapeGraph.Trait.Prelude

namespace ShapeGraph

inductive TextTrait
  | query
  | header
  | documentation
  deriving DecidableEq, Repr

namespace TextTrait

def trait : TextTrait → PreludeTrait
  | .query => .httpQuery
  | .header => .httpHeader
  | .documentation => .documentation

def label : TextTrait → String
  | .query => "HTTP query trait"
  | .header => "HTTP header trait"
  | .documentation => "Documentation trait"

def typeCode : TextTrait → String
  | .query => "INVALID_HTTP_QUERY_TYPE"
  | .header => "INVALID_HTTP_HEADER_TYPE"
  | .documentation => "INVALID_DOCUMENTATION_TYPE"

def emptyMessage : TextTrait → String
  | .query => "HTTP query parameter name cannot be empty"
  | .header => "HTTP header name cannot be empty"
  | .documentation => "Documentation cannot be empty"

def emptyCode : TextTrait → String
  | .query => "EMPTY_HTTP_QUERY"
  | .header => "EMPTY_HTTP_HEADER"
  | .documentation => "EMPTY_DOCUMENTATION"

end TextTrait

def httpMethods : List String := ["GET", "POST", "PUT", "DELETE", "PATCH", "HEAD", "OPTIONS"]

inductive TraitFault
  | traitId
  | httpType
  | methodMissing
  | methodType
  | methodUnknown (method : String)
  | uriMissing
  | uriType
  | uriFormat
  | codeType
  | codeRange
  | errorType
  | errorRange
  | textType (t : TextTrait)
  | textEmpty (t : TextTrait)
  | requiredValue
  | markerValue
  | paginatedType
  | paginatedField (name : String)
  | callable
  | foreign (typeName : String)
  | keyType
  | circular
  deriving DecidableEq, Repr

namespace TraitFault

def code : TraitFault → String
  | .traitId => "INVALID_TRAIT_ID"
  | .httpType => "INVALID_HTTP_TRAIT_TYPE"
  | .methodMissing => "MISSING_HTTP_METHOD"
  | .methodType => "INVALID_HTTP_METHOD_TYPE"
  | .methodUnknown _ => "INVALID_HTTP_METHOD"
  | .uriMissing => "MISSING_HTTP_URI"
  | .uriType => "INVALID_HTTP_URI_TYPE"
  | .uriFormat => "INVALID_HTTP_URI_FORMAT"
  | .codeType => "INVALID_HTTP_CODE_TYPE"
  | .codeRange => "INVALID_HTTP_CODE_RANGE"
  | .errorType => "INVALID_HTTP_ERROR_TYPE"
  | .errorRange => "INVALID_HTTP_ERROR_RANGE"
  | .textType t => t.typeCode
  | .textEmpty t => t.emptyCode
  | .requiredValue => "INVALID_REQUIRED_TRAIT"
  | .markerValue => "INVALID_MARKER_TRAIT"
  | .paginatedType => "INVALID_PAGINATED_TRAIT_TYPE"
  | .paginatedField _ => "INVALID_PAGINATED_FIELD_TYPE"
  | .callable | .foreign _ | .keyType => "INVALID_CUSTOM_TRAIT_TYPE"
  | .circular => "INVALID_CUSTOM_TRAIT_VALUE"

def message : TraitFault → String
  | .traitId => "Trait ID must be a non-empty string"
  | .httpType => "HTTP trait must be an object"
  | .methodMissing => "HTTP method is required"
  | .methodType => "HTTP method must be a string"
  | .methodUnknown method =>
    s!"Invalid HTTP method: \"{method}\". Must be one of: " ++ ", ".intercalate httpMethods
  | .uriMissing => "HTTP URI is required"
  | .uriType => "HTTP URI must be a string"
  | .uriFormat => "HTTP URI must start with \"/\""
  | .codeType => "HTTP code must be a number"
  | .codeRange => "HTTP code must be between 100 and 599"
  | .errorType => "HTTP error trait must be a number"
  | .errorRange => "HTTP error code must be between 400 and 599"
  | .textType t => t.label ++ " must be a string"
  | .textEmpty t => t.emptyMessage
  | .requiredValue => "Required trait must be an empty object"
  | .markerValue => "Marker trait must be an empty object"
  | .paginatedType => "Paginated trait must be an object"
  | .paginatedField name => s!"Paginated {name} must be a string"
  | .callable => "Custom trait value cannot be a function"
  | .foreign typeName => "Custom trait value must be JSON-serializable, got " ++ typeName
  | .keyType => "Custom trait object keys must be strings"
  | .circular => "Custom trait value must be JSON-serializable (no circular references)"

def statement (f : TraitFault) : Statement := ⟨f.code, f.message, none⟩

end TraitFault

end ShapeGraph
