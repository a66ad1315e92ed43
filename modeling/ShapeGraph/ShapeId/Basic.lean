import ShapeGraph.Json.Shown
import ShapeGraph.Text.Identifier

/-!
Shape ids: `ns#Name`, `ns#Name$member`, and both without a namespace. A `ShapeId` is valid by
construction; `parse` reads back what `text` writes.
-/

namespace ShapeGraph

open Text (isIdentifier isNamespace)

structure ShapeId where
  ns : Option String
  name : String
  member : Option String
  ns_valid : ns.all isNamespace
  name_valid : isIdentifier name
  member_valid : member.all isIdentifier
  deriving DecidableEq

namespace ShapeId

def join (ns : Option String) (name : String) (member : Option String) : String :=
  (match ns with
    | none => name
    | some s => s ++ "#" ++ name) ++
  (match member with
    | none => ""
    | some m => "$" ++ m)

def text (id : ShapeId) : String := join id.ns id.name id.member

def isAbsolute (id : ShapeId) : Bool := id.ns.isSome

def isRelative (id : ShapeId) : Bool := id.ns.isNone

def isMember (id : ShapeId) : Bool := id.member.isSome

inductive Fault
  | empty
  | manyHashes
  | manyDollars
  | emptyNamespace
  | dollarInNamespace
  | emptyMember
  | emptyName
  | badNamespace (ns : String)
  | badName (name : String)
  | badMember (member : String)
  deriving DecidableEq, Repr

def Fault.reason : Fault → String
  | .empty => "shape ID must be a non-empty string"
  | .manyHashes => "at most one '#' is allowed"
  | .manyDollars => "at most one '$' is allowed"
  | .emptyNamespace => "namespace is empty"
  | .dollarInNamespace => "'$' must follow the shape name"
  | .emptyMember => "member name is empty"
  | .emptyName => "shape name is empty"
  | .badNamespace ns => "invalid namespace " ++ Text.quoted ns
  | .badName name => "invalid name " ++ Text.quoted name
  | .badMember member => "invalid member " ++ Text.quoted member

structure Rejection where
  given : Json
  fault : Fault

def Rejection.message (r : Rejection) : String :=
  "Invalid shape ID " ++ r.given.shown ++ ": " ++ r.fault.reason

def ofParts (ns : Option String) (name : String) (member : Option String) :
    Except Rejection ShapeId :=
  let reject (fault : Fault) := .error ⟨.str (join ns name member), fault⟩
  if hn : ns.all isNamespace then
    if hm : isIdentifier name then
      if hb : member.all isIdentifier then .ok ⟨ns, name, member, hn, hm, hb⟩
      else reject (.badMember (member.getD ""))
    else reject (.badName name)
  else reject (.badNamespace (ns.getD ""))

def splitMember (ns : Option String) (rest : String) :
    Except Fault (Option String × String × Option String) :=
  match Text.cut '$' rest with
  | none => if rest = "" then .error .emptyName else .ok (ns, rest, none)
  | some (name, member) =>
    if member = "" then .error .emptyMember
    else if name = "" then .error .emptyName
    else .ok (ns, name, some member)

def split (text : String) : Except Fault (Option String × String × Option String) :=
  if text = "" then .error .empty
  else if 1 < text.toList.count '#' then .error .manyHashes
  else if 1 < text.toList.count '$' then .error .manyDollars
  else
    match Text.cut '#' text with
    | none => splitMember none text
    | some (ns, rest) =>
      if ns = "" then .error .emptyNamespace
      else if ns.toList.contains '$' then .error .dollarInNamespace
      else splitMember (some ns) rest

def parse (text : String) : Except Rejection ShapeId :=
  match split text with
  | .error fault => .error ⟨.str text, fault⟩
  | .ok (ns, name, member) => ofParts ns name member

def ofJson : Json → Except Rejection ShapeId
  | .str text => parse text
  | v => .error ⟨v, .empty⟩

def isValid (text : String) : Bool := (parse text).toBool

def withMember (id : ShapeId) (member : String) : Except Rejection ShapeId :=
  ofParts id.ns id.name (some member)

def withoutMember (id : ShapeId) : ShapeId :=
  { id with member := none, member_valid := rfl }

def toAbsolute (id : ShapeId) (default : String) : Except Rejection ShapeId :=
  match id.ns with
  | some _ => .ok id
  | none => ofParts (some default) id.name id.member

/-- Ids are ordered as their texts are, by code points. -/
instance : LT ShapeId := ⟨fun a b => a.text < b.text⟩

instance (a b : ShapeId) : Decidable (a < b) := inferInstanceAs (Decidable (a.text < b.text))

instance : LE ShapeId := ⟨fun a b => a < b ∨ a = b⟩

instance (a b : ShapeId) : Decidable (a ≤ b) := inferInstanceAs (Decidable (a < b ∨ a = b))

def sort (ids : List ShapeId) : List ShapeId := ids.mergeSort fun a b => decide (a ≤ b)

end ShapeId

end ShapeGraph
