import ShapeGraph.Proofs.Acceptance.Shape
import ShapeGraph.Proofs.Model.Lookup
import ShapeGraph.Proofs.Model.Views
import ShapeGraph.Proofs.Respelling.Entries
import ShapeGraph.Proofs.Selector.Traits

namespace ShapeGraph

theorem Kind.not_mem_of_list {k : Kind} {name : String} (h : name ∈ k.referenceLists) :
    name ∉ k.referenceFields := by
  revert name
  cases k with
  | simple k => simp [referenceFields]
  | _ => decide

theorem Kind.not_mem_of_map {k : Kind} {name : String} (h : name ∈ k.referenceMaps) :
    name ∉ k.referenceFields ∧ name ∉ k.referenceLists := by
  revert name
  cases k with
  | simple k => simp [referenceFields, referenceLists]
  | _ => decide

theorem Kind.plain_of_memberField {k : Kind} {name : String} (h : name ∈ k.memberFields) :
    name ∈ plainEntries := by
  revert name
  cases k with
  | simple k => simp [memberFields]
  | _ => decide

namespace Json

def wrap (chosen : Bool) : Json → Json
  | .str target => if chosen then writer.reference target else .str target
  | v => v

def wrapItems (choose : Nat → Bool) : Json → Json
  | .arr items => .arr (items.mapIdx fun i item => wrap (choose i) item)
  | v => v

def wrapEntry (k : Kind) (choose : Address → Bool) (name : String) : Json → Json :=
  if name ∈ k.referenceFields then wrap (choose (.field name))
  else if name ∈ k.referenceLists then wrapItems fun i => choose (.item name i)
  else if name ∈ k.referenceMaps then mapEntries fun key => wrap (choose (.entry name key))
  else id

/-- A node with the chosen of its references wrapped. The index of an item counts every item. -/
def wrapReferences (choose : Address → Bool) (node : Json) : Json :=
  match node.kind? with
  | some k => node.mapEntries (wrapEntry k choose)
  | none => node

variable {v : Json} {k : Kind} {choose : Address → Bool} {name : String}

@[simp] theorem target?_wrap (chosen : Bool) (v : Json) : (wrap chosen v).target? = v.target? := by
  cases v with
  | str s => cases chosen <;> rfl
  | _ => rfl

@[simp] theorem targets_wrapItems (choose : Nat → Bool) (v : Json) :
    (wrapItems choose v).targets = v.targets := by
  cases v with
  | arr items =>
    have hmap : (items.mapIdx fun i item => wrap (choose i) item).map target?
        = items.map target? := by
      apply List.ext_getElem?
      intro i
      simp only [List.getElem?_map, List.getElem?_mapIdx]
      cases items[i]? <;> simp
    have hfilter (items : List Json) : items.filterMap target? = (items.map target?).filterMap id :=
      by rw [List.filterMap_map, Function.id_comp]
    simp only [wrapItems, targets, items?, Option.getD_some]
    rw [hfilter, hmap, ← hfilter]
  | _ => rfl

@[simp] theorem targetMap_wrap (choose : String → Bool) (v : Json) :
    (v.mapEntries fun key => wrap (choose key)).targetMap = v.targetMap := by
  rw [targetMap, fieldsD_mapEntries, Fields.mapValues, List.filterMap_map]
  simp [targetMap]

@[simp] theorem wrapEntry_null : wrapEntry k choose name .null = .null := by
  simp only [wrapEntry]
  split_ifs <;> rfl

theorem wrapEntry_of_plain (h : name ∈ Kind.plainEntries) (v : Json) :
    wrapEntry k choose name v = v := by
  obtain ⟨hfields, hlists, hmaps⟩ := k.not_mem_of_plain h
  simp [wrapEntry, hfields, hlists, hmaps]

theorem wrapEntry_of_field (h : name ∈ k.referenceFields) (v : Json) :
    wrapEntry k choose name v = wrap (choose (.field name)) v := by
  simp [wrapEntry, h]

theorem wrapEntry_of_list (h : name ∈ k.referenceLists) (v : Json) :
    wrapEntry k choose name v = wrapItems (fun i => choose (.item name i)) v := by
  simp [wrapEntry, h, Kind.not_mem_of_list h]

theorem wrapEntry_of_map (h : name ∈ k.referenceMaps) (v : Json) :
    wrapEntry k choose name v = v.mapEntries fun key => wrap (choose (.entry name key)) := by
  obtain ⟨hfields, hlists⟩ := Kind.not_mem_of_map h
  simp [wrapEntry, h, hfields, hlists]

theorem getD_wrapEntry (v : Json) (name : String) :
    (v.mapEntries (wrapEntry k choose)).getD name = wrapEntry k choose name (v.getD name) :=
  getD_mapEntries wrapEntry_null

theorem getD_of_plain (h : name ∈ Kind.plainEntries) :
    (v.mapEntries (wrapEntry k choose)).getD name = v.getD name := by
  rw [getD_wrapEntry, wrapEntry_of_plain h]

theorem target?_getD_wrapEntry (h : name ∈ k.referenceFields) :
    ((v.mapEntries (wrapEntry k choose)).getD name).target? = (v.getD name).target? := by
  rw [getD_wrapEntry, wrapEntry_of_field h, target?_wrap]

theorem targets_getD_wrapEntry (h : name ∈ k.referenceLists) :
    ((v.mapEntries (wrapEntry k choose)).getD name).targets = (v.getD name).targets := by
  rw [getD_wrapEntry, wrapEntry_of_list h, targets_wrapItems]

theorem targetMap_getD_wrapEntry (h : name ∈ k.referenceMaps) :
    ((v.mapEntries (wrapEntry k choose)).getD name).targetMap = (v.getD name).targetMap := by
  rw [getD_wrapEntry, wrapEntry_of_map h, targetMap_wrap]

end Json

open Json

variable {v : Json} {k : Kind} {choose : Address → Bool} {name : String}

theorem Json.readsAs_wrapEntry : ReadsAs k id v (v.mapEntries (wrapEntry k choose)) where
  slot name hname := by rw [getD_of_plain (Kind.plain_of_memberField hname), Option.map_id_apply]
  members := by rw [getD_of_plain (by decide), Fields.mapValues_id]
  version := getD_of_plain (by decide)
  rename := getD_of_plain (by decide)
  field _ := target?_getD_wrapEntry
  list _ := targets_getD_wrapEntry
  map _ := targetMap_getD_wrapEntry

theorem Form.ofNode?_wrapEntry : Form.ofNode? (v.mapEntries (wrapEntry k choose)) k
    = Form.ofNode? v k := by
  have hid : Form.mapMembers id = id := funext Form.mapMembers_id
  rw [readsAs_wrapEntry.ofNode?, hid, Option.map_id_apply]

theorem Edge.ofKind_wrapEntry : Edge.ofKind (v.mapEntries (wrapEntry k choose)) k
    = Edge.ofKind v k :=
  readsAs_wrapEntry.ofKind fun _ => rfl

namespace ShapeCheck

open Layered

variable {scope : Scope} {id path : String}

theorem checkReference_wrap (chosen : Bool) (v : Json) :
    checkReference scope path (wrap chosen v) = checkReference scope path v := by
  rw [checkReference, target?_json, target?_wrap]
  rfl

theorem checkReferences_mapIdx (choose : Nat → Bool) (items : List Json) :
    checkReferences scope path (items.mapIdx fun i item => wrap (choose i) item)
      = checkReferences scope path items := by
  have hzip : (items.mapIdx fun i item => wrap (choose i) item).zipIdx
      = items.zipIdx.map fun e => (wrap (choose e.2) e.1, e.2) := by
    apply List.ext_getElem?
    intro i
    simp only [List.getElem?_zipIdx, List.getElem?_map, List.getElem?_mapIdx]
    cases items[i]? <;> simp
  rw [checkReferences, hzip, List.flatMap_map]
  apply List.flatMap_congr
  rintro ⟨item, i⟩ -
  apply checkReference_wrap

theorem checkField_wrapEntry (h : name ∈ k.referenceFields) :
    checkField scope id (v.mapEntries (wrapEntry k choose)) name = checkField scope id v name := by
  apply onEntry_mapEntries
  intro x
  rw [wrapEntry_of_field h, checkReference_wrap]

theorem checkList_wrapEntry (h : name ∈ k.referenceLists) :
    checkList scope id (v.mapEntries (wrapEntry k choose)) name = checkList scope id v name := by
  apply onEntry_mapEntries
  intro x
  rw [wrapEntry_of_list h]
  cases x with
  | arr items => apply checkReferences_mapIdx
  | _ => rfl

theorem checkMap_wrapEntry (h : name ∈ k.referenceMaps) :
    checkMap scope id (v.mapEntries (wrapEntry k choose)) name = checkMap scope id v name := by
  apply onEntry_mapEntries
  intro x
  rw [wrapEntry_of_map h]
  cases x with
  | obj fs =>
    rw [mapEntries, checkReferenceMap_obj, checkReferenceMap_obj]
    apply Fields.flatMap_mapValues
    rintro ⟨key, item⟩ -
    apply checkReference_wrap
  | _ => rfl

theorem checkMixins_wrapEntry : checkMixins scope id (v.mapEntries (wrapEntry .struct choose))
    = checkMixins scope id v := by
  apply onEntry_mapEntries
  intro x
  rw [wrapEntry_of_list (by decide)]
  cases x with
  | arr items => apply checkReferences_mapIdx
  | _ => rfl

theorem checkMembers_wrapEntry (a : Aggregate) :
    checkMembers scope id (v.mapEntries (wrapEntry k choose)) a = checkMembers scope id v a := by
  apply onEntry_mapEntries
  intro x
  rw [wrapEntry_of_plain (by decide)]

theorem checkRename_wrapEntry :
    checkRename id (v.mapEntries (wrapEntry k choose)) = checkRename id v := by
  apply onEntry_mapEntries
  intro x
  rw [wrapEntry_of_plain (by decide)]

theorem given?_wrapEntry (h : name ∈ Kind.plainEntries) :
    given? (v.mapEntries (wrapEntry k choose)) name = given? v name := by
  rw [given?_json, getD_of_plain h, given?_json]

theorem checkSlot_wrapEntry (slot : Slot) :
    checkSlot scope id (v.mapEntries (wrapEntry k choose)) slot = checkSlot scope id v slot := by
  have hfield : slot.field ∈ Kind.plainEntries := by
    cases slot <;> decide
  rw [checkSlot, given?_wrapEntry hfield]
  rfl

theorem checkVersion_wrapEntry :
    checkVersion id (v.mapEntries (wrapEntry k choose)) = checkVersion id v := by
  rw [checkVersion, given?_wrapEntry (by decide)]
  rfl

theorem checkKind_wrapEntry : checkKind scope id (v.mapEntries (wrapEntry k choose)) k
    = checkKind scope id v k := by
  apply checkKind_congr
  case hslot => exact checkSlot_wrapEntry
  case hmembers => exact checkMembers_wrapEntry
  case hmixins =>
    rintro rfl
    exact checkMixins_wrapEntry
  case hversion => exact checkVersion_wrapEntry
  case hrename => exact checkRename_wrapEntry
  case hfield => exact fun _ => checkField_wrapEntry
  case hlist => exact fun _ => checkList_wrapEntry
  case hmap => exact fun _ => checkMap_wrapEntry

end ShapeCheck

namespace Json

theorem kind?_wrapEntry (k : Kind) : (v.mapEntries (wrapEntry k choose)).kind? = v.kind? := by
  rw [kind?_eq, getD_of_plain (by decide), kind?_eq]

theorem wrapReferences_congr {α : Type} (f : Json → α)
    (h : ∀ k, v.kind? = some k → f (v.mapEntries (wrapEntry k choose)) = f v) :
    f (v.wrapReferences choose) = f v := by
  rw [wrapReferences]
  split
  · next k hk => exact h k hk
  · rfl

theorem isObject_wrapReferences (choose : Address → Bool) (v : Json) :
    (v.wrapReferences choose).isObject = v.isObject := by
  apply wrapReferences_congr isObject
  intro k _
  apply isObject_mapEntries

theorem getD_wrapReferences (choose : Address → Bool) (v : Json) (h : name ∈ Kind.plainEntries) :
    (v.wrapReferences choose).getD name = v.getD name := by
  apply wrapReferences_congr fun v => v.getD name
  intro k _
  apply getD_of_plain h

theorem edges_wrapReferences (choose : Address → Bool) (v : Json) :
    (v.wrapReferences choose).edges = v.edges := by
  apply wrapReferences_congr edges
  intro k hk
  simp only [edges_eq, kind?_wrapEntry, hk, Edge.ofKind_wrapEntry]

theorem checkJson_wrapReferences (scope : Scope) (id : String) (choose : Address → Bool) (v : Json) :
    ShapeCheck.checkJson scope id (v.wrapReferences choose) = ShapeCheck.checkJson scope id v := by
  apply wrapReferences_congr (ShapeCheck.checkJson scope id)
  intro k hk
  apply ShapeCheck.checkJson_congr_kind isObject_mapEntries (getD_of_plain (by decide))
  intro k' hk'
  obtain rfl : k = k' := by simpa [kind?_wrapEntry, hk] using hk'
  exact ShapeCheck.checkKind_wrapEntry

theorem ofNode?_wrapReferences (id : String) (choose : Address → Bool) (v : Json) :
    Shape.ofNode? id (v.wrapReferences choose) = Shape.ofNode? id v := by
  apply wrapReferences_congr (Shape.ofNode? id)
  intro k hk
  have htraits : (v.mapEntries (wrapEntry k choose)).traits = v.traits := by
    rw [traits, getD_of_plain (by decide)]
    rfl
  simp only [Shape.ofNode?_eq, kind?_wrapEntry, hk, Option.bind_some, Form.ofNode?_wrapEntry, htraits]

end Json

namespace Model

def wrapReferences (m : Model) (choose : String → Address → Bool) : Model :=
  m.mapNodes fun id => Json.wrapReferences (choose id)

variable (m : Model) (choose : String → Address → Bool)

theorem memberNodes_wrapReferences (choose : Address → Bool) (node : Json) :
    memberNodes (node.wrapReferences choose) = memberNodes node := by
  have hslots : (["member", "key", "value"].map fun name =>
        (name, (node.wrapReferences choose).getD name))
      = ["member", "key", "value"].map fun name => (name, node.getD name) := by
    apply List.map_congr_left
    intro name hname
    have hplain : ∀ name ∈ ["member", "key", "value"], name ∈ Kind.plainEntries := by decide
    rw [getD_wrapReferences choose node (hplain name hname)]
  rw [memberNodes, getD_wrapReferences choose node (by decide), hslots]
  rfl

theorem keeps_wrapReferences : m.Keeps fun id => Json.wrapReferences (choose id) where
  isObject id node := isObject_wrapReferences (choose id) node
  check e _ scope := checkJson_wrapReferences scope e.1 (choose e.1) e.2
  traitProblems e _ checks := by
    rw [traitProblems, getD_wrapReferences _ _ (by decide), memberNodes_wrapReferences]
    rfl
  edges e _ := edges_wrapReferences (choose e.1) e.2

theorem looksLike_wrapReferences : (m.wrapReferences choose).LooksLike m where
  ids := by rw [wrapReferences, ids_mapNodes]
  shape? id := by
    rw [shape?, wrapReferences, entries_mapNodes, Fields.get?_mapValues, shape?]
    cases m.entries.get? id with
    | none => rfl
    | some node => apply ofNode?_wrapReferences

theorem keys_select_wrapReferences (s : Selector) :
    ((m.wrapReferences choose).select s).keys = (m.select s).keys := by
  rw [wrapReferences, (m.keeps_wrapReferences choose).select, Fields.keys_mapValues]
  intro route _ step _ e _
  apply Predicate.allHold_congr (getD_wrapReferences _ _ (by decide))
  intro t _
  rw [getD_wrapReferences _ _ (by decide)]

/-- However references are written, bare or as objects, the same is found by every validation, the
views and edges of all shapes are the same, and so is what selectors, lineages, services and
operations are led to by them. -/
theorem references_in_either_form :
    (∀ checks, (m.wrapReferences choose).validate checks = m.validate checks)
    ∧ (∀ id, (m.wrapReferences choose).shape? id = m.shape? id)
    ∧ (∀ id, ((m.wrapReferences choose).entries.get? id).map Json.edges
      = (m.entries.get? id).map Json.edges)
    ∧ (∀ s, ((m.wrapReferences choose).select s).keys = (m.select s).keys)
    ∧ (∀ id, (m.wrapReferences choose).lineage id = m.lineage id)
    ∧ (∀ serviceId, (m.wrapReferences choose).resources serviceId = m.resources serviceId
      ∧ (m.wrapReferences choose).operations serviceId = m.operations serviceId)
    ∧ ∀ operationId,
      (m.wrapReferences choose).operationInput? operationId = m.operationInput? operationId
      ∧ (m.wrapReferences choose).operationOutput? operationId = m.operationOutput? operationId
      ∧ (m.wrapReferences choose).operationErrors operationId = m.operationErrors operationId := by
  have hlike := m.looksLike_wrapReferences choose
  have hedges (id : String) : ((m.wrapReferences choose).entries.get? id).map Json.edges
      = (m.entries.get? id).map Json.edges := by
    rw [wrapReferences, entries_mapNodes, Fields.get?_mapValues, Option.map_map]
    apply congrArg (Option.map · _)
    funext node
    apply edges_wrapReferences
  exact ⟨(m.keeps_wrapReferences choose).validate, hlike.shape?, hedges,
    m.keys_select_wrapReferences choose, hlike.lineage,
    fun serviceId => ⟨hlike.resources serviceId, hlike.operations serviceId⟩,
    fun operationId => ⟨hlike.operationInput? operationId, hlike.operationOutput? operationId,
      hlike.operationErrors operationId⟩⟩

end Model

end ShapeGraph
