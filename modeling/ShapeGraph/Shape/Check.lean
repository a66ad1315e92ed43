import ShapeGraph.Json.Shown
import ShapeGraph.Problem
import ShapeGraph.Shape.Basic

namespace ShapeGraph

inductive Slot
  | listMember
  | setMember
  | mapKey
  | mapValue
  deriving DecidableEq, Repr

namespace Slot

def field : Slot → String
  | .listMember | .setMember => "member"
  | .mapKey => "key"
  | .mapValue => "value"

def code : Slot → String
  | .listMember => "MISSING_LIST_MEMBER"
  | .setMember => "MISSING_SET_MEMBER"
  | .mapKey => "MISSING_MAP_KEY"
  | .mapValue => "MISSING_MAP_VALUE"

def message : Slot → String
  | .listMember => "List member is required"
  | .setMember => "Set member is required"
  | .mapKey => "Map key is required"
  | .mapValue => "Map value is required"

end Slot

inductive Aggregate
  | struct
  | union
  deriving DecidableEq, Repr

def Aggregate.label : Aggregate → String
  | .struct => "Structure"
  | .union => "Union"

inductive ShapeFault
  | notObject
  | typeMissing
  | typeUnknown (shown : String)
  | membersType (a : Aggregate)
  | mixinsType
  | versionMissing
  | versionType
  | renameType
  | slotMissing (slot : Slot)
  | memberType
  | targetMissing
  | targetType
  | referenceType
  | dangling (target : String)
  | referenceListType (field : String)
  | referenceMapType (field : String)

namespace ShapeFault

def code : ShapeFault → String
  | .notObject => "INVALID_SHAPE_TYPE"
  | .typeMissing => "MISSING_SHAPE_TYPE"
  | .typeUnknown _ => "INVALID_SHAPE_TYPE"
  | .membersType _ => "INVALID_MEMBERS_TYPE"
  | .mixinsType => "INVALID_MIXINS_TYPE"
  | .versionMissing => "MISSING_SERVICE_VERSION"
  | .versionType => "INVALID_SERVICE_VERSION_TYPE"
  | .renameType => "INVALID_RENAME_TYPE"
  | .slotMissing slot => slot.code
  | .memberType => "INVALID_MEMBER_TYPE"
  | .targetMissing => "MISSING_MEMBER_TARGET"
  | .targetType => "INVALID_MEMBER_TARGET_TYPE"
  | .referenceType => "INVALID_REFERENCE_TYPE"
  | .dangling _ => "INVALID_SHAPE_REFERENCE"
  | .referenceListType _ => "INVALID_REFERENCE_ARRAY_TYPE"
  | .referenceMapType _ => "INVALID_REFERENCE_MAP_TYPE"

def message : ShapeFault → String
  | .notObject => "Shape must be an object"
  | .typeMissing => "Shape must have a type"
  | .typeUnknown shown => "Invalid shape type: \"" ++ shown ++ "\""
  | .membersType a => a.label ++ " members must be an object"
  | .mixinsType => "Structure mixins must be an array"
  | .versionMissing => "Service version is required"
  | .versionType => "Service version must be a string"
  | .renameType => "Service rename must be an object"
  | .slotMissing slot => slot.message
  | .memberType => "Member must be an object"
  | .targetMissing => "Member must have a target"
  | .targetType => "Member target must be a string"
  | .referenceType => "Shape reference must be a string"
  | .dangling target => "Shape reference \"" ++ target ++ "\" not found"
  | .referenceListType field => field ++ " must be an array"
  | .referenceMapType field => field ++ " must be an object"

def reference? : ShapeFault → Option String
  | .dangling target => some target
  | _ => none

def statement (f : ShapeFault) : Statement :=
  ⟨f.code, f.message, f.reference?.map fun target => .obj [("reference", .str target)]⟩

end ShapeFault

abbrev Scope := Option (List String)

/-- Without any ids references are not checked, so a shape can be checked before the rest of its
model is known. -/
def Scope.ofIds (ids : List String) : Scope := if ids.isEmpty then none else some ids

def Scope.allows (scope : Scope) (target : String) : Bool := scope.all (·.contains target)

namespace ShapeCheck

abbrev Problems := List (Problem ShapeFault)

open Layered

variable {α : Type} [Layered α]

def checkTarget (scope : Scope) (path target : String) : Problems :=
  if scope.allows target then [] else [⟨path, .dangling target⟩]

def checkReference (scope : Scope) (path : String) (v : α) : Problems :=
  match target? v with
  | some target => checkTarget scope path target
  | none => [⟨path, .referenceType⟩]

def checkReferences (scope : Scope) (path : String) (items : List α) : Problems :=
  items.zipIdx.flatMap fun (item, i) => checkReference scope s!"{path}[{i}]" item

def checkReferenceList (scope : Scope) (id field : String) (v : α) : Problems :=
  match layer v with
  | .list items => checkReferences scope (id ++ "." ++ field) items
  | _ => [⟨id ++ "." ++ field, .referenceListType field⟩]

def checkReferenceMap (scope : Scope) (id field : String) (v : α) : Problems :=
  match layer v with
  | .mapping entries =>
    entries.flatMap fun (key, item) =>
      checkReference scope (id ++ "." ++ field ++ "." ++ key.display) item
  | _ => [⟨id ++ "." ++ field, .referenceMapType field⟩]

def checkMember (scope : Scope) (path : String) (v : α) : Problems :=
  match layer v with
  | .mapping _ =>
    match (given? v "target").map text? with
    | none => [⟨path, .targetMissing⟩]
    | some (some target) => checkTarget scope path target
    | some none => [⟨path, .targetType⟩]
  | _ => [⟨path, .memberType⟩]

def checkSlot (scope : Scope) (id : String) (v : α) (slot : Slot) : Problems :=
  match given? v slot.field with
  | none => [⟨id ++ "." ++ slot.field, .slotMissing slot⟩]
  | some member => checkMember scope (id ++ "." ++ slot.field) member

/-- Runs a check on an entry that may be left out, but is checked when it is null. -/
def onEntry (v : α) (name : String) (check : α → Problems) : Problems :=
  ((get? v name).map check).getD []

def checkMemberMap (scope : Scope) (id : String) (a : Aggregate) (v : α) : Problems :=
  match layer v with
  | .mapping entries =>
    entries.flatMap fun (key, member) => checkMember scope (id ++ "." ++ key.display) member
  | _ => [⟨id ++ ".members", .membersType a⟩]

def checkMembers (scope : Scope) (id : String) (v : α) (a : Aggregate) : Problems :=
  onEntry v "members" (checkMemberMap scope id a)

def checkMixinList (scope : Scope) (id : String) (v : α) : Problems :=
  match layer v with
  | .list items => checkReferences scope (id ++ ".mixins") items
  | _ => [⟨id ++ ".mixins", .mixinsType⟩]

def checkMixins (scope : Scope) (id : String) (v : α) : Problems :=
  onEntry v "mixins" (checkMixinList scope id)

def checkVersion (id : String) (v : α) : Problems :=
  match (given? v "version").map text? with
  | none => [⟨id ++ ".version", .versionMissing⟩]
  | some (some _) => []
  | some none => [⟨id ++ ".version", .versionType⟩]

def checkRename (id : String) (v : α) : Problems :=
  onEntry v "rename" fun rename =>
    if (layer rename).isMapping then [] else [⟨id ++ ".rename", .renameType⟩]

def checkField (scope : Scope) (id : String) (v : α) (name : String) : Problems :=
  onEntry v name (checkReference scope (id ++ "." ++ name))

def checkList (scope : Scope) (id : String) (v : α) (name : String) : Problems :=
  onEntry v name (checkReferenceList scope id name)

def checkMap (scope : Scope) (id : String) (v : α) (name : String) : Problems :=
  onEntry v name (checkReferenceMap scope id name)

def checkKind (scope : Scope) (id : String) (v : α) : Kind → Problems
  | .simple _ => []
  | .list => checkSlot scope id v .listMember
  | .set => checkSlot scope id v .setMember
  | .map => checkSlot scope id v .mapKey ++ checkSlot scope id v .mapValue
  | .struct => checkMembers scope id v .struct ++ checkMixins scope id v
  | .union => checkMembers scope id v .union
  | .service =>
    checkVersion id v ++ ["operations", "resources", "errors"].flatMap (checkList scope id v)
      ++ checkRename id v
  | .operation =>
    ["input", "output"].flatMap (checkField scope id v) ++ checkList scope id v "errors"
  | .resource =>
    ["identifiers", "properties"].flatMap (checkMap scope id v)
      ++ (Lifecycle.all.map Lifecycle.name).flatMap (checkField scope id v)
      ++ ["operations", "collectionOperations", "resources"].flatMap (checkList scope id v)

/-- `shown` is how a value appears in a message. -/
def check (shown : α → String) (scope : Scope) (id : String) (v : α) : Problems :=
  match layer v with
  | .mapping _ =>
    match given? v "type" with
    | none => [⟨id, .typeMissing⟩]
    | some type =>
      match (text? type).bind Kind.ofName? with
      | some k => checkKind scope id v k
      | none => [⟨id, .typeUnknown (shown type)⟩]
  | _ => [⟨id, .notObject⟩]

def checkJson (scope : Scope) (id : String) (v : Json) : Problems := check Json.display scope id v

end ShapeCheck

end ShapeGraph
