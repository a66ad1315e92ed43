import ShapeGraph.Shape.Edge

namespace ShapeGraph

section

variable {α τ : Type} [Layered α] {traits : α → τ} {v : α}

theorem Form.kind_of_read {k : Kind} {form : Form τ} (h : read traits v k = some form) :
    form.kind = k := by
  cases k with
  | list | set =>
    obtain ⟨member, -, rfl⟩ := Option.map_eq_some_iff.1 h
    rfl
  | map =>
    obtain ⟨key, -, h⟩ := Option.bind_eq_some_iff.1 h
    obtain ⟨value, -, rfl⟩ := Option.map_eq_some_iff.1 h
    rfl
  | _ =>
    cases h
    rfl

theorem Shape.read_eq_some_iff {id : String} {s : Shape τ} :
    read traits id v = some s ↔ s.id = id ∧ Layered.kind? v = some s.kind ∧ traits v = s.traits
      ∧ Form.read traits v s.kind = some s.form := by
  simp only [read, Option.bind_eq_some_iff, Option.map_eq_some_iff]
  constructor
  · rintro ⟨k, hk, form, hform, rfl⟩
    obtain rfl := Form.kind_of_read hform
    exact ⟨rfl, hk, rfl, hform⟩
  · rintro ⟨rfl, hk, htraits, hform⟩
    exact ⟨s.kind, hk, s.form, hform, by rw [htraits]⟩

end

namespace Json

def target? (v : Json) : Option String := Layered.target? v

def targets (v : Json) : List String := (v.items?.getD []).filterMap target?

def targetMap (v : Json) : Fields String :=
  v.fieldsD.filterMap fun (key, x) => x.target?.map (key, ·)

def texts (v : Json) : Fields String := v.fieldsD.filterMap fun (key, x) => x.str?.map (key, ·)

def kind? (v : Json) : Option Kind := Layered.kind? v

end Json

namespace Member

def ofNode? (v : Json) : Option Member := read Json.traits v

def ofNodes (v : Json) : Fields Member :=
  v.fieldsD.filterMap fun (name, x) => (ofNode? x).map (name, ·)

end Member

def Form.ofNode? (v : Json) (k : Kind) : Option Form := read Json.traits v k

namespace Layered

variable {α β : Type}

theorem bind_json (read : Json → Option β) (hnull : read .null = none) (v : Json) (name : String) :
    (get? v name).bind read = read (v.getD name) := by
  rw [get?_json, Json.getD]
  cases v.get? name with
  | none => exact hnull.symm
  | some x => rfl

@[simp] theorem target?_json (v : Json) : target? v = v.target? := rfl

@[simp] theorem kind?_json (v : Json) : kind? v = v.kind? := rfl

theorem memberTarget?_json (v : Json) : memberTarget? v = (v.getD "target").str? :=
  bind_json text? rfl v "target" |>.trans (text?_json _)

theorem mapOf_json (read : Json → Option β) (v : Json) (name : String) :
    mapOf read v name = (v.getD name).fieldsD.filterMap fun (key, x) => (read x).map (key, ·) := by
  rw [mapOf, namedOf_json]

end Layered

open Layered

namespace Json

theorem target?_eq (v : Json) : v.target? = v.str?.or (v.getD "target").str? := by
  rw [target?, Layered.target?, text?_json, memberTarget?_json]

theorem kind?_eq (v : Json) : v.kind? = (v.getD "type").str?.bind Kind.ofName? := by
  rw [kind?, Layered.kind?, bind_json text? rfl, text?_json]

theorem targetsOf_json (v : Json) (name : String) : targetsOf v name = (v.getD name).targets := by
  rw [targetsOf, itemsOf_json]
  rfl

end Json

theorem Json.texts_json (v : Json) (name : String) :
    mapOf text? v name = (v.getD name).texts := by
  simp only [mapOf_json, text?_json]
  rfl

namespace Member

theorem ofNode?_eq (v : Json) :
    ofNode? v = (v.getD "target").str?.map fun target => ⟨target, v.traits⟩ := by
  rw [ofNode?, read, memberTarget?_json]

theorem mapOf_read (v : Json) (name : String) :
    mapOf (read Json.traits) v name = ofNodes (v.getD name) := by
  rw [mapOf_json]
  rfl

theorem bind_read (v : Json) (name : String) :
    (Layered.get? v name).bind (read Json.traits) = ofNode? (v.getD name) :=
  bind_json (read Json.traits) rfl v name

end Member

theorem Form.ofNode?_eq (v : Json) (k : Kind) : ofNode? v k =
    match k with
    | .simple k => some (.simple k)
    | .list => (Member.ofNode? (v.getD "member")).map .list
    | .set => (Member.ofNode? (v.getD "member")).map .set
    | .map =>
      (Member.ofNode? (v.getD "key")).bind fun key =>
        (Member.ofNode? (v.getD "value")).map fun value => .map key value
    | .struct => some (.struct (Member.ofNodes (v.getD "members")) (v.getD "mixins").targets)
    | .union => some (.union (Member.ofNodes (v.getD "members")))
    | .service =>
      some (.service
        { version := (v.getD "version").str?
          operations := (v.getD "operations").targets
          resources := (v.getD "resources").targets
          errors := (v.getD "errors").targets
          rename := (v.getD "rename").texts })
    | .operation =>
      some (.operation
        { input := (v.getD "input").target?
          output := (v.getD "output").target?
          errors := (v.getD "errors").targets })
    | .resource =>
      some (.resource
        { identifiers := (v.getD "identifiers").targetMap
          properties := (v.getD "properties").targetMap
          bound := fun l => (v.getD l.name).target?
          operations := (v.getD "operations").targets
          collectionOperations := (v.getD "collectionOperations").targets
          resources := (v.getD "resources").targets }) := by
  have htext (name : String) : (Layered.get? v name).bind text? = (v.getD name).str? :=
    (bind_json text? rfl v name).trans (text?_json _)
  have htarget (name : String) : (Layered.get? v name).bind Layered.target? = (v.getD name).target? :=
    bind_json Layered.target? rfl v name
  have hmap (name : String) : mapOf Layered.target? v name = (v.getD name).targetMap :=
    mapOf_json Layered.target? v name
  cases k <;> simp only [ofNode?, read, Member.bind_read, Member.mapOf_read, Json.targetsOf_json,
    Json.texts_json, htext, htarget, hmap]

namespace Edge

theorem ofMember_json (v : Json) (name : String) :
    ofMember v name
      = ((Member.ofNode? (v.getD name)).map fun m => ⟨.field name, m.target⟩).toList := by
  have hread : (Layered.get? v name).bind memberTarget?
      = (Member.ofNode? (v.getD name)).map Member.target := by
    rw [bind_json memberTarget? rfl, Member.ofNode?, Member.read, Option.map_map]
    exact Option.map_id'.symm
  rw [ofMember, hread, toTarget, Option.map_map]
  rfl

theorem ofMembers_json (v : Json) :
    ofMembers v
      = (Member.ofNodes (v.getD "members")).map fun (name, m) => ⟨.entry "members" name, m.target⟩ := by
  rw [ofMembers, mapOf_json, toEntries, Member.ofNodes, List.map_filterMap, List.map_filterMap]
  simp only [Member.ofNode?, Member.read, Option.map_map]
  rfl

theorem ofField_json (v : Json) (name : String) : ofField v name = toTarget name (v.getD name).target? :=
  congrArg (toTarget name) (bind_json Layered.target? rfl v name)

theorem ofList_json (v : Json) (name : String) : ofList v name = toTargets name (v.getD name).targets :=
  congrArg (toTargets name) (Json.targetsOf_json v name)

theorem ofMap_json (v : Json) (name : String) : ofMap v name = toEntries name (v.getD name).targetMap :=
  congrArg (toEntries name) (mapOf_json Layered.target? v name)

end Edge

theorem Json.edges_eq (v : Json) : v.edges =
    match v.kind? with
    | none => []
    | some k => Edge.ofKind v k := rfl

theorem Form.kind_of_ofNode? {v : Json} {k : Kind} {form : Form} (h : ofNode? v k = some form) :
    form.kind = k :=
  kind_of_read h

theorem Shape.ofNode?_eq (id : String) (v : Json) : ofNode? id v
    = v.kind?.bind fun k => (Form.ofNode? v k).map fun form => ⟨id, v.traits, form⟩ := rfl

theorem Shape.ofNode?_eq_some_iff {id : String} {v : Json} {s : Shape} :
    ofNode? id v = some s ↔ s.id = id ∧ v.kind? = some s.kind ∧ v.traits = s.traits
      ∧ Form.ofNode? v s.kind = some s.form :=
  read_eq_some_iff

end ShapeGraph
