import ShapeGraph.Shape.Check

namespace ShapeGraph

open Layered

structure Reference where
  path : String
  target : String
  deriving DecidableEq, Repr

namespace Reference

variable {α : Type} [Layered α]

def ofMember (path : String) (v : α) : List Reference :=
  (((memberTarget? v).filter (· ≠ "")).map (⟨path, ·⟩)).toList

def ofValue (path : String) (v : α) : List Reference := ((target? v).map (⟨path, ·⟩)).toList

def ofItems (path : String) (items : List α) : List Reference :=
  items.zipIdx.flatMap fun (item, i) => ofValue s!"{path}[{i}]" item

def ofEntries (path : String) (entries : List (Key × α)) : List Reference :=
  entries.flatMap fun (key, item) => ofValue (path ++ "." ++ key.display) item

def ofMemberEntries (path : String) (entries : List (Key × α)) : List Reference :=
  entries.flatMap fun (key, member) => ofMember (path ++ "." ++ key.display) member

def inEntry (v : α) (name : String) (refs : α → List Reference) : List Reference :=
  ((get? v name).map refs).getD []

def ofMembers (id : String) (v : α) : List Reference :=
  inEntry v "members" fun x => ofMemberEntries id (entries x)

def ofSlot (id : String) (v : α) (name : String) : List Reference :=
  inEntry v name (ofMember (id ++ "." ++ name))

def ofField (id : String) (v : α) (name : String) : List Reference :=
  inEntry v name (ofValue (id ++ "." ++ name))

def ofList (id : String) (v : α) (name : String) : List Reference :=
  inEntry v name fun x => ofItems (id ++ "." ++ name) (items x)

def ofMap (id : String) (v : α) (name : String) : List Reference :=
  inEntry v name fun x => ofEntries (id ++ "." ++ name) (entries x)

def ofKind (id : String) (v : α) : Kind → List Reference
  | .simple _ => []
  | .list | .set => ofSlot id v "member"
  | .map => ofSlot id v "key" ++ ofSlot id v "value"
  | .struct => ofMembers id v ++ ofList id v "mixins"
  | .union => ofMembers id v
  | .service => ["operations", "resources", "errors"].flatMap (ofList id v)
  | .operation => ["input", "output"].flatMap (ofField id v) ++ ofList id v "errors"
  | .resource =>
    ["identifiers", "properties"].flatMap (ofMap id v)
      ++ ["create", "put", "read", "update", "delete", "list"].flatMap (ofField id v)
      ++ ["operations", "collectionOperations", "resources"].flatMap (ofList id v)

end Reference

/-- The references in a node that its check looks up, in that order. Mixins are looked up for a
structure only. -/
def Layered.references {α : Type} [Layered α] (id : String) (v : α) : List Reference :=
  ((kind? v).map (Reference.ofKind id v)).getD []

def Json.references (id : String) (v : Json) : List Reference := Layered.references id v

namespace ShapeCheck

def lost (r : Reference) : Problem ShapeFault := ⟨r.path, .dangling r.target⟩

def isLeft (scope : Scope) (p : Problem ShapeFault) : Bool :=
  p.cause.reference?.all fun target => !scope.allows target

/-- A check that looks up `refs`, in this order, and has its other problems in every scope. -/
structure Follows (refs : List Reference) (check : Scope → Problems) : Prop where
  eq_filter : ∀ scope, check scope = (check (some [])).filter (isLeft scope)
  lost_eq : (check (some [])).filter (fun p => p.cause.reference?.isSome) = refs.map lost

namespace Follows

variable {α : Type} {refs refs' : List Reference} {check check' : Scope → Problems}

theorem fixed {ps : Problems} (h : ∀ p ∈ ps, p.cause.reference? = none) :
    Follows [] fun _ => ps where
  eq_filter scope := by
    rw [eq_comm, List.filter_eq_self]
    intro p hp
    simp [isLeft, h p hp]
  lost_eq := by
    rw [List.map_nil, List.filter_eq_nil_iff]
    intro p hp
    simp [h p hp]

theorem append (h : Follows refs check) (h' : Follows refs' check') :
    Follows (refs ++ refs') fun scope => check scope ++ check' scope where
  eq_filter scope := by rw [h.eq_filter scope, h'.eq_filter scope, List.filter_append]
  lost_eq := by rw [List.filter_append, h.lost_eq, h'.lost_eq, List.map_append]

theorem flatMap {xs : List α} {refs : α → List Reference} {check : Scope → α → Problems}
    (h : ∀ x ∈ xs, Follows (refs x) (check · x)) :
    Follows (xs.flatMap refs) fun scope => xs.flatMap (check scope) := by
  induction xs with
  | nil => exact fixed (by simp)
  | cons x xs ih =>
    simp only [List.flatMap_cons]
    exact (h x List.mem_cons_self).append (ih fun y hy => h y (List.mem_cons_of_mem x hy))

end Follows

variable {β : Type} [Layered β] {id path : String}

theorem Follows.target (path target : String) :
    Follows [⟨path, target⟩] fun scope => checkTarget scope path target where
  eq_filter scope := by
    have hnone : Scope.allows (some []) target = false := rfl
    cases h : scope.allows target <;> simp [checkTarget, h, hnone, isLeft, ShapeFault.reference?]
  lost_eq := by simp [checkTarget, Scope.allows, lost, ShapeFault.reference?]

theorem Follows.fault {fault : ShapeFault} (path : String) (h : fault.reference? = none) :
    Follows [] fun _ => [⟨path, fault⟩] :=
  .fixed (by simp [h])

theorem Follows.reference (path : String) (v : β) :
    Follows (Reference.ofValue path v) fun scope => checkReference scope path v := by
  simp only [Reference.ofValue, checkReference]
  cases target? v with
  | none => exact .fault path rfl
  | some target => exact .target path target

theorem Follows.references (path : String) (items : List β) :
    Follows (Reference.ofItems path items) fun scope => checkReferences scope path items :=
  .flatMap fun e _ => .reference s!"{path}[{e.2}]" e.1

theorem Follows.referenceList (id field : String) (v : β) :
    Follows (Reference.ofItems (id ++ "." ++ field) (items v))
      fun scope => checkReferenceList scope id field v := by
  simp only [items, checkReferenceList]
  cases layer v with
  | list items => exact .references (id ++ "." ++ field) items
  | _ => exact .fault (id ++ "." ++ field) rfl

theorem Follows.referenceMap (id field : String) (v : β) :
    Follows (Reference.ofEntries (id ++ "." ++ field) (entries v))
      fun scope => checkReferenceMap scope id field v := by
  simp only [entries, checkReferenceMap]
  cases layer v with
  | mapping entries =>
    exact .flatMap fun e _ => .reference (id ++ "." ++ field ++ "." ++ e.1.display) e.2
  | _ => exact .fault (id ++ "." ++ field) rfl

theorem filter_memberTarget? (v : β) :
    (memberTarget? v).filter (· ≠ "") = (given? v "target").bind text? := by
  rw [memberTarget?, given?]
  cases get? v "target" with
  | none => rfl
  | some x =>
    cases hx : layer x with
    | text s =>
      by_cases hs : s = "" <;> simp [text?, hx, Layer.text?, Layer.isBlank, Option.filter, hs]
    | _ => simp [text?, hx, Layer.text?, Layer.isBlank, Option.filter]

theorem Follows.member (path : String) (v : β) :
    Follows (Reference.ofMember path v) fun scope => checkMember scope path v := by
  simp only [Reference.ofMember, filter_memberTarget?, checkMember]
  cases hlayer : layer v with
  | mapping entries =>
    cases given? v "target" with
    | none => exact .fault path rfl
    | some x =>
      simp only [Option.bind_some, Option.map_some]
      cases text? x with
      | none => exact .fault path rfl
      | some target => exact .target path target
  | _ =>
    -- only a mapping has entries
    have hentries : entries v = [] := by
      rw [entries, hlayer]
      rfl
    rw [given?_eq_none hentries]
    exact .fault path rfl

theorem Follows.slot (id : String) (v : β) (slot : Slot) :
    Follows (Reference.ofSlot id v slot.field) fun scope => checkSlot scope id v slot := by
  simp only [Reference.ofSlot, Reference.inEntry, checkSlot]
  cases h : given? v slot.field with
  | none =>
    -- what is blank has no entries and so no target
    have hnone : ((get? v slot.field).map (Reference.ofMember (id ++ "." ++ slot.field))).getD []
        = [] := by
      rw [given?, Option.filter_eq_none_iff] at h
      cases hx : get? v slot.field with
      | none => rfl
      | some x =>
        have hblank : (layer x).isBlank := by simpa using h x hx
        have htarget : memberTarget? x = none := by
          rw [memberTarget?, get?_eq_none (Layer.entries_of_isBlank hblank)]
          rfl
        simp [Reference.ofMember, htarget]
    rw [hnone]
    exact .fault _ rfl
  | some member =>
    have hget : get? v slot.field = some member := (Option.filter_eq_some_iff.1 h).1
    rw [hget]
    exact .member _ member

theorem Follows.onEntry {refs : β → List Reference} {check : Scope → β → Problems} (v : β)
    (name : String) (h : ∀ x, Follows (refs x) (check · x)) :
    Follows (Reference.inEntry v name refs) fun scope => onEntry v name (check scope) := by
  simp only [Reference.inEntry, ShapeCheck.onEntry]
  cases get? v name with
  | none => exact .fixed (by simp)
  | some x => exact h x

theorem Follows.members (id : String) (v : β) (a : Aggregate) :
    Follows (Reference.ofMembers id v) fun scope => checkMembers scope id v a := by
  refine .onEntry v "members" fun x => ?_
  simp only [entries, checkMemberMap]
  cases layer x with
  | mapping entries => exact .flatMap fun e _ => .member (id ++ "." ++ e.1.display) e.2
  | _ => exact .fault (id ++ ".members") rfl

theorem Follows.mixins (id : String) (v : β) :
    Follows (Reference.ofList id v "mixins") fun scope => checkMixins scope id v := by
  have hpath : id ++ "." ++ "mixins" = id ++ ".mixins" := String.append_assoc
  simp only [Reference.ofList, hpath]
  refine .onEntry v "mixins" fun x => ?_
  simp only [items, checkMixinList]
  cases layer x with
  | list items => exact .references (id ++ ".mixins") items
  | _ => exact .fault (id ++ ".mixins") rfl

theorem Follows.version (id : String) (v : β) : Follows [] fun _ => checkVersion id v := by
  simp only [checkVersion]
  split
  · exact .fault _ rfl
  · exact .fixed (by simp)
  · exact .fault _ rfl

theorem Follows.rename (id : String) (v : β) : Follows [] fun _ => checkRename id v := by
  have h (x : β) : Follows [] fun _ =>
      if (layer x).isMapping then [] else [⟨id ++ ".rename", .renameType⟩] := by
    cases (layer x).isMapping with
    | true => exact .fixed (by simp)
    | false => exact .fault (id ++ ".rename") rfl
  have hentry := Follows.onEntry v "rename" h
  have hnone : Reference.inEntry v "rename" (fun _ => []) = [] := by
    rw [Reference.inEntry]
    cases get? v "rename" <;> rfl
  rwa [hnone] at hentry

theorem Follows.field (id : String) (v : β) (name : String) :
    Follows (Reference.ofField id v name) fun scope => checkField scope id v name :=
  .onEntry v name fun x => .reference (id ++ "." ++ name) x

theorem Follows.list (id : String) (v : β) (name : String) :
    Follows (Reference.ofList id v name) fun scope => checkList scope id v name :=
  .onEntry v name fun x => .referenceList id name x

theorem Follows.map (id : String) (v : β) (name : String) :
    Follows (Reference.ofMap id v name) fun scope => checkMap scope id v name :=
  .onEntry v name fun x => .referenceMap id name x

theorem Follows.kind (id : String) (v : β) (k : Kind) :
    Follows (Reference.ofKind id v k) fun scope => checkKind scope id v k := by
  have hfields (names : List String) : Follows (names.flatMap (Reference.ofField id v))
      fun scope => names.flatMap (checkField scope id v) := .flatMap fun name _ => .field id v name
  have hlists (names : List String) : Follows (names.flatMap (Reference.ofList id v))
      fun scope => names.flatMap (checkList scope id v) := .flatMap fun name _ => .list id v name
  have hmaps (names : List String) : Follows (names.flatMap (Reference.ofMap id v))
      fun scope => names.flatMap (checkMap scope id v) := .flatMap fun name _ => .map id v name
  cases k with
  | simple => exact .fixed (by simp)
  | list => exact .slot id v .listMember
  | set => exact .slot id v .setMember
  | map => exact (Follows.slot id v .mapKey).append (.slot id v .mapValue)
  | struct => exact (Follows.members id v .struct).append (.mixins id v)
  | union => exact .members id v .union
  | service =>
    have h := ((Follows.version id v).append (hlists ["operations", "resources", "errors"])).append
      (.rename id v)
    rw [List.nil_append, List.append_nil] at h
    exact h
  | operation => exact (hfields _).append (.list id v "errors")
  | resource => exact ((hmaps _).append (hfields _)).append (hlists _)

theorem Follows.check (shown : β → String) (id : String) (v : β) :
    Follows (Layered.references id v) fun scope => check shown scope id v := by
  have hkind : (given? v "type").bind (fun type => (text? type).bind Kind.ofName?) = kind? v := by
    rw [kind?, Option.bind_assoc]
    apply bind_given?
    intro x hx
    rcases text?_of_isBlank hx with h | h <;> rw [h] <;> rfl
  simp only [Layered.references, ← hkind, ShapeCheck.check]
  cases hlayer : layer v with
  | mapping entries =>
    cases given? v "type" with
    | none => exact .fault id rfl
    | some type =>
      simp only [Option.bind_some]
      cases (text? type).bind Kind.ofName? with
      | none => exact .fault id rfl
      | some k => exact .kind id v k
  | _ =>
    have hentries : entries v = [] := by
      rw [entries, hlayer]
      rfl
    rw [given?_eq_none hentries]
    exact .fault id rfl

theorem Follows.checkJson (id : String) (v : Json) :
    Follows (v.references id) fun scope => checkJson scope id v :=
  .check Json.display id v

end ShapeCheck

end ShapeGraph
