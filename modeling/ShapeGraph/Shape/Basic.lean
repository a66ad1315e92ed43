import ShapeGraph.Shape.Kind
import ShapeGraph.Value.Layered

/-!
Typed views of shape nodes. A view leaves out what is malformed; a node whose kind or whose required
members cannot be made out has no view. The traits of a node are kept as they are, in whatever form
`τ` its values have them.
-/

namespace ShapeGraph

namespace Layered

variable {α β : Type} [Layered α]

def memberTarget? (v : α) : Option String := (get? v "target").bind text?

/-- A reference is a text, or an object with a text for its `target`. -/
def target? (v : α) : Option String := (text? v).or (memberTarget? v)

def targetsOf (v : α) (name : String) : List String := (itemsOf v name).filterMap target?

def mapOf (read : α → Option β) (v : α) (name : String) : Fields β :=
  (namedOf v name).filterMap fun (key, x) => (read x).map fun y => (key, y)

def kind? (v : α) : Option Kind := ((get? v "type").bind text?).bind Kind.ofName?

def traits (v : α) : List (Key × α) := entriesOf v "traits"

end Layered

def Json.traits (v : Json) : Fields Json := (v.getD "traits").fieldsD

structure Member (τ : Type := Fields Json) where
  target : String
  traits : τ

structure ServiceView where
  version : Option String
  operations : List String
  resources : List String
  errors : List String
  rename : Fields String

structure OperationView where
  input : Option String
  output : Option String
  errors : List String

structure ResourceView where
  identifiers : Fields String
  properties : Fields String
  bound : Lifecycle → Option String
  operations : List String
  collectionOperations : List String
  resources : List String

inductive Form (τ : Type := Fields Json)
  | simple (k : SimpleKind)
  | list (member : Member τ)
  | set (member : Member τ)
  | map (key value : Member τ)
  | struct (members : Fields (Member τ)) (mixins : List String)
  | union (members : Fields (Member τ))
  | service (s : ServiceView)
  | operation (o : OperationView)
  | resource (r : ResourceView)

structure Shape (τ : Type := Fields Json) where
  id : String
  traits : τ
  form : Form τ

variable {α β τ : Type}

def Form.kind : Form τ → Kind
  | .simple k => .simple k
  | .list _ => .list
  | .set _ => .set
  | .map _ _ => .map
  | .struct _ _ => .struct
  | .union _ => .union
  | .service _ => .service
  | .operation _ => .operation
  | .resource _ => .resource

def Shape.kind (s : Shape τ) : Kind := s.form.kind

def Member.isRequired (m : Member) : Bool :=
  m.traits.has "smithy.api#required" || m.traits.has "required"

def ResourceView.lifecycle (r : ResourceView) : List (Lifecycle × String) :=
  Lifecycle.all.filterMap fun l => (r.bound l).map (l, ·)

section

open Layered

variable [Layered α] (traits : α → τ)

def Member.read (v : α) : Option (Member τ) :=
  (memberTarget? v).map fun target => ⟨target, traits v⟩

def Form.read (v : α) : Kind → Option (Form τ)
  | .simple k => some (.simple k)
  | .list => ((get? v "member").bind (Member.read traits)).map .list
  | .set => ((get? v "member").bind (Member.read traits)).map .set
  | .map =>
    ((get? v "key").bind (Member.read traits)).bind fun key =>
      ((get? v "value").bind (Member.read traits)).map fun value => .map key value
  | .struct => some (.struct (mapOf (Member.read traits) v "members") (targetsOf v "mixins"))
  | .union => some (.union (mapOf (Member.read traits) v "members"))
  | .service =>
    some (.service
      { version := (get? v "version").bind text?
        operations := targetsOf v "operations"
        resources := targetsOf v "resources"
        errors := targetsOf v "errors"
        rename := mapOf text? v "rename" })
  | .operation =>
    some (.operation
      { input := (get? v "input").bind target?
        output := (get? v "output").bind target?
        errors := targetsOf v "errors" })
  | .resource =>
    some (.resource
      { identifiers := mapOf target? v "identifiers"
        properties := mapOf target? v "properties"
        bound := fun l => (get? v l.name).bind target?
        operations := targetsOf v "operations"
        collectionOperations := targetsOf v "collectionOperations"
        resources := targetsOf v "resources" })

def Shape.read (id : String) (v : α) : Option (Shape τ) :=
  (kind? v).bind fun k => (Form.read traits v k).map fun form => ⟨id, traits v, form⟩

end

def Shape.ofNode? (id : String) (v : Json) : Option Shape := read Json.traits id v

/-- How values of a host are written that have nothing but texts, lists, and mappings with texts for
keys, and how the traits of a view are written again, if there are any. -/
structure Writer (τ β : Type) where
  text : String → β
  list : List β → β
  object : Fields β → β
  traits? : τ → Option β

namespace Writer

variable (W : Writer τ β)

def reference (target : String) : β := W.object [("target", W.text target)]

def entryOf (name : String) : Option β → Fields β
  | none => []
  | some x => [(name, x)]

def entryOfText (name : String) (text : Option String) : Fields β := entryOf name (text.map W.text)

def entryOfTarget (name : String) (target : Option String) : Fields β :=
  entryOf name (target.map W.reference)

def entryOfTargets (name : String) : List String → Fields β
  | [] => []
  | targets => [(name, W.list (targets.map W.reference))]

def entryOfFields (name : String) : Fields β → Fields β
  | [] => []
  | fs => [(name, W.object fs)]

def member (m : Member τ) : β :=
  W.object (("target", W.text m.target) :: entryOf "traits" (W.traits? m.traits))

def members (ms : Fields (Member τ)) : β := W.object (ms.map fun (name, m) => (name, W.member m))

def entries : Form τ → Fields β
  | .simple _ => []
  | .list m | .set m => [("member", W.member m)]
  | .map k v => [("key", W.member k), ("value", W.member v)]
  | .struct ms mixins => ("members", W.members ms) :: W.entryOfTargets "mixins" mixins
  | .union ms => [("members", W.members ms)]
  | .service s =>
    W.entryOfText "version" s.version ++ W.entryOfTargets "operations" s.operations
      ++ W.entryOfTargets "resources" s.resources ++ W.entryOfTargets "errors" s.errors
      ++ W.entryOfFields "rename" (s.rename.map fun (k, text) => (k, W.text text))
  | .operation o =>
    W.entryOfTarget "input" o.input ++ W.entryOfTarget "output" o.output
      ++ W.entryOfTargets "errors" o.errors
  | .resource r =>
    W.entryOfFields "identifiers" (r.identifiers.map fun (k, target) => (k, W.reference target))
      ++ W.entryOfFields "properties" (r.properties.map fun (k, target) => (k, W.reference target))
      ++ r.lifecycle.map (fun (l, target) => (l.name, W.reference target))
      ++ W.entryOfTargets "operations" r.operations
      ++ W.entryOfTargets "collectionOperations" r.collectionOperations
      ++ W.entryOfTargets "resources" r.resources

def shape (s : Shape τ) : β :=
  W.object (("type", W.text s.kind.name) :: W.entries s.form
    ++ entryOf "traits" (W.traits? s.traits))

end Writer

def Json.writer : Writer (Fields Json) Json where
  text := .str
  list := .arr
  object := .obj
  traits? traits := if traits.isEmpty then none else some (.obj traits)

def Member.toNode (m : Member) : Json := Json.writer.member m

def Shape.toNode (s : Shape) : Json := Json.writer.shape s

end ShapeGraph
