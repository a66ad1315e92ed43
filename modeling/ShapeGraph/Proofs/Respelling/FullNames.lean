import ShapeGraph.Proofs.Model.Members
import ShapeGraph.Proofs.Respelling.Entries
import ShapeGraph.Proofs.Trait.Spelling

namespace ShapeGraph

namespace Shape

def inFull (s : Shape) : Shape where
  id := s.id
  traits := Applied.inFull s.traits
  form := s.form.mapMembers Member.inFull

end Shape

namespace Json

def fullTraits : Json → Json
  | .obj fs => .obj (Applied.inFull fs)
  | v => v

def fullMember (v : Json) : Json :=
  v.mapEntries fun name x => if name = "traits" then x.fullTraits else x

def traitEntries : List String := ["traits", "members", "member", "key", "value"]

def fullEntry (name : String) (x : Json) : Json :=
  if name = "traits" then x.fullTraits
  else if name = "members" then x.mapEntries fun _ => fullMember
  else if name ∈ ["member", "key", "value"] then x.fullMember
  else x

def inFull (v : Json) : Json := v.mapEntries fullEntry

variable {v : Json} {name : String}

theorem isObject_fullMember (v : Json) : v.fullMember.isObject = v.isObject :=
  isObject_mapEntries

theorem isObject_inFull (v : Json) : v.inFull.isObject = v.isObject :=
  isObject_mapEntries

theorem fieldsD_fullTraits (v : Json) : v.fullTraits.fieldsD = Applied.inFull v.fieldsD := by
  cases v <;> rfl

theorem getD_traits_fullMember (v : Json) :
    v.fullMember.getD "traits" = (v.getD "traits").fullTraits :=
  getD_mapEntries rfl

theorem get?_fullMember_of_ne (h : name ≠ "traits") (v : Json) :
    v.fullMember.get? name = v.get? name := by
  rw [fullMember, get?_mapEntries]
  simp [h]

theorem traits_fullMember (v : Json) : v.fullMember.traits = Applied.inFull v.traits := by
  rw [traits, getD_traits_fullMember, fieldsD_fullTraits]
  rfl

theorem fullEntry_of_plain (h : name ∉ traitEntries) (x : Json) : fullEntry name x = x := by
  simp [traitEntries] at h
  simp [fullEntry, h]

theorem getD_inFull (v : Json) (name : String) :
    v.inFull.getD name = fullEntry name (v.getD name) := by
  apply getD_mapEntries
  simp only [fullEntry]
  split_ifs <;> rfl

theorem getD_inFull_of_plain (h : name ∉ traitEntries) (v : Json) :
    v.inFull.getD name = v.getD name := by
  rw [getD_inFull, fullEntry_of_plain h]

theorem getD_traits_inFull (v : Json) : v.inFull.getD "traits" = (v.getD "traits").fullTraits :=
  getD_inFull v "traits"

theorem getD_members_inFull (v : Json) :
    v.inFull.getD "members" = (v.getD "members").mapEntries fun _ => fullMember :=
  getD_inFull v "members"

theorem getD_slot_inFull (h : name ∈ ["member", "key", "value"]) (v : Json) :
    v.inFull.getD name = (v.getD name).fullMember := by
  have hne : name ≠ "traits" ∧ name ≠ "members" := by
    constructor <;>
    · rintro rfl
      exact absurd h (by decide)
  rw [getD_inFull, fullEntry, if_neg hne.1, if_neg hne.2, if_pos h]

theorem kind?_inFull (v : Json) : v.inFull.kind? = v.kind? := by
  rw [kind?_eq, getD_inFull_of_plain (by decide), kind?_eq]

theorem traits_inFull (v : Json) : v.inFull.traits = Applied.inFull v.traits := by
  rw [traits, getD_traits_inFull, fieldsD_fullTraits]
  rfl

end Json

open Json

variable {v : Json} {k : Kind} {name : String}

theorem Kind.not_mem_traitEntries
    (h : name ∈ k.referenceFields ∨ name ∈ k.referenceLists ∨ name ∈ k.referenceMaps) :
    name ∉ traitEntries := by
  have hplain : traitEntries ⊆ Kind.plainEntries := by decide
  exact fun hname => Kind.not_mem_plain_of_reference h (hplain hname)

theorem Member.ofNode?_fullMember (v : Json) :
    Member.ofNode? v.fullMember = (Member.ofNode? v).map Member.inFull := by
  have htarget : v.fullMember.getD "target" = v.getD "target" := by
    rw [getD, get?_fullMember_of_ne (by decide), getD]
  rw [Member.ofNode?_eq, htarget, traits_fullMember, Member.ofNode?_eq, Option.map_map]
  rfl

theorem Member.ofNodes_fullMember (v : Json) :
    Member.ofNodes (v.mapEntries fun _ => fullMember)
      = (Member.ofNodes v).mapValues fun _ => Member.inFull := by
  rw [Member.ofNodes, fieldsD_mapEntries, Fields.mapValues, List.filterMap_map, Member.ofNodes,
    Fields.mapValues, List.map_filterMap]
  apply List.filterMap_congr
  rintro ⟨name, item⟩ -
  simp only [Function.comp_apply, Member.ofNode?_fullMember, Option.map_map]
  rfl

theorem Json.readsAs_inFull (v : Json) (k : Kind) : ReadsAs k Member.inFull v v.inFull where
  slot name hname := by
    rw [getD_slot_inFull (Kind.mem_slots_of_memberField hname), Member.ofNode?_fullMember]
  members := by rw [getD_members_inFull, Member.ofNodes_fullMember]
  version := getD_inFull_of_plain (by decide) v
  rename := getD_inFull_of_plain (by decide) v
  field name hname := by rw [getD_inFull_of_plain (Kind.not_mem_traitEntries (.inl hname))]
  list name hname := by rw [getD_inFull_of_plain (Kind.not_mem_traitEntries (.inr (.inl hname)))]
  map name hname := by rw [getD_inFull_of_plain (Kind.not_mem_traitEntries (.inr (.inr hname)))]

theorem Shape.ofNode?_inFull (id : String) (v : Json) :
    Shape.ofNode? id v.inFull = (Shape.ofNode? id v).map Shape.inFull := by
  rw [Shape.ofNode?_eq, kind?_inFull, traits_inFull, Shape.ofNode?_eq, Option.map_bind]
  apply congrArg
  funext k
  rw [(v.readsAs_inFull k).ofNode?, Function.comp_apply, Option.map_map, Option.map_map]
  rfl

theorem Json.edges_inFull (v : Json) : v.inFull.edges = v.edges := by
  have hof (k : Kind) : Edge.ofKind v.inFull k = Edge.ofKind v k :=
    (v.readsAs_inFull k).ofKind fun _ => rfl
  simp only [edges_eq, kind?_inFull, hof]

namespace ShapeCheck

open Layered

variable {scope : Scope} {id path : String}

theorem onEntry_inFull_of_plain (h : name ∉ traitEntries) (check : Json → Problems) :
    onEntry v.inFull name check = onEntry v name check := by
  apply onEntry_mapEntries
  intro x
  rw [fullEntry_of_plain h]

theorem given?_inFull_of_plain (h : name ∉ traitEntries) :
    given? v.inFull name = given? v name := by
  rw [given?_json, getD_inFull_of_plain h, given?_json]

theorem given?_slot_inFull (h : name ∈ ["member", "key", "value"]) :
    given? v.inFull name = (given? v name).map fullMember := by
  rw [given?_json, getD_slot_inFull h, given?_json]
  cases v.getD name with
  | str s =>
    rw [apply_ite (Option.map fullMember)]
    rfl
  | _ => rfl

theorem checkMember_fullMember (v : Json) :
    checkMember scope path v.fullMember = checkMember scope path v := by
  cases v with
  | obj fs =>
    have hgiven : given? (fullMember (.obj fs)) "target" = given? (.obj fs) "target" := by
      rw [given?_json, getD, get?_fullMember_of_ne (by decide), given?_json, getD]
    simp only [fullMember, mapEntries] at hgiven ⊢
    rw [checkMember_obj, hgiven, checkMember_obj]
  | _ => rfl

theorem checkKind_inFull (k : Kind) : checkKind scope id v.inFull k = checkKind scope id v k := by
  apply checkKind_congr
  case hslot =>
    intro slot
    have hslot : slot.field ∈ ["member", "key", "value"] := by
      cases slot <;> decide
    rw [checkSlot, given?_slot_inFull hslot, checkSlot]
    cases given? v slot.field with
    | none => rfl
    | some member => apply checkMember_fullMember
  case hmembers =>
    intro a
    apply onEntry_mapEntries
    intro x
    cases x with
    | obj fs =>
      rw [show fullEntry "members" (Json.obj fs) = .obj (Fields.mapValues (fun _ => fullMember) fs) from rfl,
        checkMemberMap_obj, checkMemberMap_obj]
      apply Fields.flatMap_mapValues
      rintro ⟨name, member⟩ -
      apply checkMember_fullMember
    | _ => rfl
  case hmixins => exact fun _ => onEntry_inFull_of_plain (by decide) _
  case hversion =>
    rw [checkVersion, given?_inFull_of_plain (by decide)]
    rfl
  case hrename => exact onEntry_inFull_of_plain (by decide) _
  case hfield =>
    intro name hname
    exact onEntry_inFull_of_plain (Kind.not_mem_traitEntries (.inl hname)) _
  case hlist =>
    intro name hname
    exact onEntry_inFull_of_plain (Kind.not_mem_traitEntries (.inr (.inl hname))) _
  case hmap =>
    intro name hname
    exact onEntry_inFull_of_plain (Kind.not_mem_traitEntries (.inr (.inr hname))) _

theorem checkJson_inFull (scope : Scope) (id : String) (v : Json) :
    checkJson scope id v.inFull = checkJson scope id v := by
  apply checkJson_congr_kind (isObject_inFull v) (getD_inFull_of_plain (by decide) v)
  intro k _
  apply checkKind_inFull

end ShapeCheck

end ShapeGraph
