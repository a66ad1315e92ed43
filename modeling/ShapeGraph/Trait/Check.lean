import ShapeGraph.Text.Casing
import ShapeGraph.Trait.Plain
import ShapeGraph.Value.Layered

/-!
Checking applied traits. The value of a prelude trait has a form of its own; the value of any other
trait has to be plain data. A value is looked at one level at a time, so that the same rules serve
JSON and graphs of cells.
-/

namespace ShapeGraph.TraitCheck

abbrev Problems := List (Problem TraitFault)

variable {α : Type}

def path (t : PreludeTrait) (field : String) : String := t.id ++ "." ++ field

def methodFaults : Option (Layer α) → List TraitFault
  | none | some .null => [.methodMissing]
  | some (.text method) =>
    if method = "" then [.methodMissing]
    else if Text.upper method ∈ httpMethods then []
    else [.methodUnknown method]
  | some _ => [.methodType]

def uriFaults : Option (Layer α) → List TraitFault
  | none | some .null => [.uriMissing]
  | some (.text uri) =>
    if uri = "" then [.uriMissing] else if uri.toList.head? = some '/' then [] else [.uriFormat]
  | some _ => [.uriType]

def rangeFaults (low high : Int) (typeFault rangeFault : TraitFault) (v : Layer α) :
    List TraitFault :=
  match v.compareInt? low, v.compareInt? high with
  | some a, some b => if a = .lt ∨ b = .gt then [rangeFault] else []
  | _, _ => [typeFault]

def codeFaults : Option (Layer α) → List TraitFault
  | none => []
  | some v => rangeFaults 100 599 .codeType .codeRange v

def paginatedFields : List String := ["inputToken", "outputToken", "items", "pageSize"]

/-- A value that is absent differs from a null. -/
def checkHttp [Layered α] : Option (Layer α) → Problems
  | some (.mapping entries) =>
    let entry (name : String) := (Layer.textEntry? name entries).map Layered.layer
    (methodFaults (entry "method")).map (⟨path .http "method", ·⟩)
      ++ (uriFaults (entry "uri")).map (⟨path .http "uri", ·⟩)
      ++ (codeFaults (entry "code")).map (⟨path .http "code", ·⟩)
  | _ => [⟨PreludeTrait.http.id, .httpType⟩]

def checkHttpError : Option (Layer α) → Problems
  | some v => (rangeFaults 400 599 .errorType .errorRange v).map (⟨PreludeTrait.httpError.id, ·⟩)
  | none => [⟨PreludeTrait.httpError.id, .errorType⟩]

def checkText (t : TextTrait) : Option (Layer α) → Problems
  | some (.text s) => if s = "" then [⟨t.trait.id, .textEmpty t⟩] else []
  | _ => [⟨t.trait.id, .textType t⟩]

def isEmptyObject : Layer α → Bool
  | .mapping [] => true
  | _ => false

def checkRequired : Option (Layer α) → Problems
  | none => []
  | some v => if isEmptyObject v then [] else [⟨PreludeTrait.required.id, .requiredValue⟩]

def checkMarker (path : String) : Option (Layer α) → Problems
  | none => []
  | some v => if isEmptyObject v then [] else [⟨path, .markerValue⟩]

def checkPaginated [Layered α] : Option (Layer α) → Problems
  | some (.mapping entries) =>
    paginatedFields.filterMap fun name =>
      match (Layer.textEntry? name entries).map Layered.layer with
      | none | some (.text _) => none
      | some _ => some ⟨path .paginated name, .paginatedField name⟩
  | _ => [⟨PreludeTrait.paginated.id, .paginatedType⟩]

def checkPrelude [Layered α] (t : PreludeTrait) (value : Option (Layer α)) : Problems :=
  match t with
  | .http => checkHttp value
  | .httpError => checkHttpError value
  | .httpQuery => checkText .query value
  | .httpHeader => checkText .header value
  | .documentation => checkText .documentation value
  | .required => checkRequired value
  | .paginated => checkPaginated value
  | .httpLabel | .httpPayload | .readonly | .idempotent => checkMarker t.id value

/-- `plain` finds what keeps a value from being plain data. -/
def check [Layered α] (plain : String → α → Problems) (traitId : Option String)
    (value : Option α) : Problems :=
  match traitId with
  | none | some "" => [⟨"trait", .traitId⟩]
  | some id =>
    match PreludeTrait.ofId? id with
    | some t => checkPrelude t (value.map Layered.layer)
    | none => (value.map (plain id)).getD []

def checkJson (traitId : String) (value : Json) : Problems :=
  check (fun _ _ => []) (some traitId) (some value)

def checkGraph (g : Graph) (traitId : Option String) (value : Option (Fin g.size)) : Problems :=
  check g.plainProblems traitId value

end ShapeGraph.TraitCheck
