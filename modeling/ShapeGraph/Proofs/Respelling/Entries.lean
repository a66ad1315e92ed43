import ShapeGraph.Model.Check
import ShapeGraph.Proofs.Model.Members
import ShapeGraph.Proofs.References.Field
import ShapeGraph.Proofs.Selector.Likeness

/-!
Models whose nodes are written in another way, node by node. Where no check and no reference can
tell a node from what it becomes, a validation finds the same, and a selector that cannot tell them
either selects the same.
-/

namespace ShapeGraph

namespace Json

def mapEntries (f : String → Json → Json) : Json → Json
  | .obj fs => .obj (Fields.mapValues f fs)
  | v => v

variable {f : String → Json → Json} {v : Json} {name : String}

@[simp] theorem isObject_mapEntries : (v.mapEntries f).isObject = v.isObject := by
  cases v <;> rfl

@[simp] theorem get?_mapEntries : (v.mapEntries f).get? name = (v.get? name).map (f name) := by
  cases v <;> simp [mapEntries, get?, fields?]

theorem getD_mapEntries (h : f name .null = .null) :
    (v.mapEntries f).getD name = f name (v.getD name) := by
  cases hv : v.get? name <;> simp [getD, hv, h]

theorem fieldsD_mapEntries : (v.mapEntries f).fieldsD = Fields.mapValues f v.fieldsD := by
  cases v <;> rfl

end Json

structure Json.ReadsAs (k : Kind) (f : Member → Member) (v v' : Json) : Prop where
  slot : ∀ name ∈ k.memberFields,
    Member.ofNode? (v'.getD name) = (Member.ofNode? (v.getD name)).map f
  members : Member.ofNodes (v'.getD "members")
    = (Member.ofNodes (v.getD "members")).mapValues fun _ => f
  version : v'.getD "version" = v.getD "version"
  rename : v'.getD "rename" = v.getD "rename"
  field : ∀ name ∈ k.referenceFields, (v'.getD name).target? = (v.getD name).target?
  list : ∀ name ∈ k.referenceLists, (v'.getD name).targets = (v.getD name).targets
  map : ∀ name ∈ k.referenceMaps, (v'.getD name).targetMap = (v.getD name).targetMap

namespace Json.ReadsAs

variable {k : Kind} {f : Member → Member} {v v' : Json} (h : ReadsAs k f v v')

include h

theorem ofNode? : Form.ofNode? v' k = (Form.ofNode? v k).map (Form.mapMembers f) := by
  simp only [Form.ofNode?_eq]
  cases k with
  | simple k => rfl
  | list | set =>
    dsimp only
    rw [h.slot _ (by decide), Option.map_map, Option.map_map]
    rfl
  | map =>
    dsimp only
    rw [h.slot "key" (by decide), h.slot "value" (by decide)]
    cases Member.ofNode? (v.getD "key") with
    | none => rfl
    | some key => cases Member.ofNode? (v.getD "value") <;> rfl
  | struct =>
    dsimp only
    rw [h.members, h.list _ (by decide)]
    rfl
  | union =>
    dsimp only
    rw [h.members]
    rfl
  | service =>
    dsimp only
    rw [h.version, h.rename, h.list _ (by decide), h.list _ (by decide), h.list _ (by decide)]
    rfl
  | operation =>
    dsimp only
    rw [h.field _ (by decide), h.field _ (by decide), h.list _ (by decide)]
    rfl
  | resource =>
    have hbound (l : Lifecycle) : (v'.getD l.name).target? = (v.getD l.name).target? :=
      h.field _ (List.mem_map_of_mem l.mem_all)
    simp only [hbound]
    rw [h.map _ (by decide), h.map _ (by decide), h.list _ (by decide), h.list _ (by decide),
      h.list _ (by decide)]
    rfl

theorem ofKind (hf : ∀ m, (f m).target = m.target) : Edge.ofKind v' k = Edge.ofKind v k := by
  have hmember : k.memberFields.flatMap (Edge.ofMember v')
      = k.memberFields.flatMap (Edge.ofMember v) := by
    apply List.flatMap_congr
    intro name hname
    rw [Edge.ofMember_json, h.slot name hname, Option.map_map, Edge.ofMember_json]
    simp only [Function.comp_def, hf]
  have hmembers : Edge.ofMembers v' = Edge.ofMembers v := by
    rw [Edge.ofMembers_json, h.members, Fields.mapValues, List.map_map, Edge.ofMembers_json]
    simp only [Function.comp_def, hf]
  have hfield : k.referenceFields.flatMap (Edge.ofField v')
      = k.referenceFields.flatMap (Edge.ofField v) := by
    apply List.flatMap_congr
    intro name hname
    rw [Edge.ofField_json, h.field name hname, Edge.ofField_json]
  have hlist : k.referenceLists.flatMap (Edge.ofList v')
      = k.referenceLists.flatMap (Edge.ofList v) := by
    apply List.flatMap_congr
    intro name hname
    rw [Edge.ofList_json, h.list name hname, Edge.ofList_json]
  have hmap : k.referenceMaps.flatMap (Edge.ofMap v')
      = k.referenceMaps.flatMap (Edge.ofMap v) := by
    apply List.flatMap_congr
    intro name hname
    rw [Edge.ofMap_json, h.map name hname, Edge.ofMap_json]
  rw [Edge.ofKind, hmember, hmembers, hfield, hlist, hmap, Edge.ofKind]

end Json.ReadsAs

namespace ShapeCheck

open Layered

variable {scope : Scope} {id : String} {v v' : Json} {name : String}

theorem onEntry_mapEntries {f : String → Json → Json} {check : Json → Problems}
    (h : ∀ x, check (f name x) = check x) :
    onEntry (v.mapEntries f) name check = onEntry v name check := by
  rw [onEntry, get?_json, Json.get?_mapEntries]
  cases hv : v.get? name <;> simp [onEntry, hv, h]

theorem checkJson_of_not_isObject (h : ¬ v.isObject) : checkJson scope id v = [⟨id, .notObject⟩] := by
  cases v with
  | obj fs => exact absurd rfl h
  | _ => rfl

theorem checkJson_congr_kind (hobj : v.isObject = v'.isObject) (htype : v.getD "type" = v'.getD "type")
    (hkind : ∀ k, v.kind? = some k → checkKind scope id v k = checkKind scope id v' k) :
    checkJson scope id v = checkJson scope id v' := by
  have hgiven : given? v "type" = given? v' "type" := by
    rw [given?_json, htype, given?_json]
  by_cases hv : v.isObject
  · obtain ⟨fs, rfl⟩ := Json.isObject_iff.1 hv
    obtain ⟨fs', rfl⟩ := Json.isObject_iff.1 (hobj.symm.trans hv)
    rw [checkJson_obj, checkJson_obj, ← hgiven]
    split
    · rfl
    · next type htype =>
      split
      · next k hk =>
        apply hkind
        rw [Json.kind?_eq, Json.getD_eq_of_get? (given?_eq_some_iff.1 htype).1, hk]
      · rfl
  · rw [checkJson_of_not_isObject hv, checkJson_of_not_isObject (hobj ▸ hv)]

theorem checkKind_congr {k : Kind}
    (hslot : ∀ slot, checkSlot scope id v slot = checkSlot scope id v' slot)
    (hmembers : ∀ a, checkMembers scope id v a = checkMembers scope id v' a)
    (hmixins : k = .struct → checkMixins scope id v = checkMixins scope id v')
    (hversion : checkVersion id v = checkVersion id v')
    (hrename : checkRename id v = checkRename id v')
    (hfield : ∀ name ∈ k.referenceFields, checkField scope id v name = checkField scope id v' name)
    (hlist : ∀ name ∈ k.referenceLists, checkList scope id v name = checkList scope id v' name)
    (hmap : ∀ name ∈ k.referenceMaps, checkMap scope id v name = checkMap scope id v' name) :
    checkKind scope id v k = checkKind scope id v' k := by
  have hfields {names : List String} (h : ∀ name ∈ names, name ∈ k.referenceFields) :
      names.flatMap (checkField scope id v) = names.flatMap (checkField scope id v') :=
    List.flatMap_congr fun name hname => hfield name (h name hname)
  have hlists {names : List String} (h : ∀ name ∈ names, name ∈ k.referenceLists) :
      names.flatMap (checkList scope id v) = names.flatMap (checkList scope id v') :=
    List.flatMap_congr fun name hname => hlist name (h name hname)
  have hmaps {names : List String} (h : ∀ name ∈ names, name ∈ k.referenceMaps) :
      names.flatMap (checkMap scope id v) = names.flatMap (checkMap scope id v') :=
    List.flatMap_congr fun name hname => hmap name (h name hname)
  cases k with
  | simple k => rfl
  | list | set => apply hslot
  | map => rw [checkKind, hslot, hslot, checkKind]
  | struct => rw [checkKind, hmembers, hmixins rfl, checkKind]
  | union => apply hmembers
  | service => rw [checkKind, hversion, hlists (by decide), hrename, checkKind]
  | operation => rw [checkKind, hfields (by decide), hlist _ (by decide), checkKind]
  | resource =>
    rw [checkKind, hmaps (by decide), hfields (by decide), hlists (by decide), checkKind]

end ShapeCheck

namespace Model

def mapNodes (f : String → Json → Json) (m : Model) : Model :=
  { m with shapes := m.shapes.map (Json.mapEntries f) }

variable {m : Model} {f : String → Json → Json}

theorem entries_mapNodes : (m.mapNodes f).entries = Fields.mapValues f m.entries := by
  rcases hs : m.shapes with _ | v
  · simp [entries, mapNodes, hs, Fields.mapValues]
  · cases v <;> simp [entries, mapNodes, hs, Json.mapEntries, Json.fields?, Fields.mapValues]

@[simp] theorem ids_mapNodes : (m.mapNodes f).ids = m.ids := by
  rw [ids, entries_mapNodes, Fields.keys_mapValues]
  rfl

/-- Nodes become others that no check can tell from them and that have the same edges. -/
structure Keeps (m : Model) (f : String → Json → Json) : Prop where
  isObject : ∀ id node, (f id node).isObject = node.isObject
  check : ∀ e ∈ m.nodes, ∀ scope,
    ShapeCheck.checkJson scope e.1 (f e.1 e.2) = ShapeCheck.checkJson scope e.1 e.2
  traitProblems : ∀ e ∈ m.nodes, ∀ checks,
    traitProblems checks e.1 (f e.1 e.2) = traitProblems checks e.1 e.2
  edges : ∀ e ∈ m.nodes, (f e.1 e.2).edges = e.2.edges

def Becomes (m : Model) (f : String → Json → Json) (e e' : String × Json) : Prop :=
  e ∈ m.nodes ∧ e' = (e.1, f e.1 e.2)

namespace Keeps

variable (h : m.Keeps f)

include h

theorem nodes : (m.mapNodes f).nodes = Fields.mapValues f m.nodes := by
  rw [Model.nodes, entries_mapNodes]
  apply Fields.filter_mapValues
  intro e _
  apply h.isObject

theorem node? (id : String) : (m.mapNodes f).node? id = (m.node? id).map (f id) := by
  rw [Model.node?, Model.node?, entries_mapNodes, Fields.get?_mapValues, Option.filter_map]
  apply congrArg
  apply congrArg (Option.filter · _)
  funext node
  apply h.isObject

theorem checkDocument : DocumentCheck.check (m.mapNodes f) = DocumentCheck.check m := by
  have hentry (key : String) (node : Json) :
      DocumentCheck.checkEntry key (f key node) = DocumentCheck.checkEntry key node := by
    rw [DocumentCheck.checkEntry, h.isObject]
    rfl
  have hshapes : DocumentCheck.checkShapes (m.mapNodes f).shapes
      = DocumentCheck.checkShapes m.shapes := by
    rcases hs : m.shapes with _ | v
    · simp [mapNodes, hs]
    · cases v with
      | obj fs =>
        cases fs with
        | nil => simp [mapNodes, hs, Json.mapEntries, Fields.mapValues]
        | cons e fs =>
          simp only [mapNodes, hs, Option.map_some, Json.mapEntries]
          apply Fields.flatMap_mapValues
          intro e _
          apply hentry
      | _ => simp [mapNodes, hs, Json.mapEntries]
  rw [DocumentCheck.check, hshapes]
  rfl

theorem problems (checks : Checks) : (m.mapNodes f).problems checks = m.problems checks := by
  have hscope : (m.mapNodes f).scope checks.references = m.scope checks.references := by
    rw [scope, ids_mapNodes]
    rfl
  rw [Model.problems, Model.problems, h.checkDocument, h.nodes, hscope]
  congr 1
  · congr 1
    apply Fields.flatMap_mapValues
    intro e he
    simp only [shapeProblems, h.check e he]
  · apply Fields.flatMap_mapValues
    intro e he
    apply h.traitProblems e he

theorem validate (checks : Checks) : (m.mapNodes f).validate checks = m.validate checks := by
  rw [Model.validate, h.problems]
  rfl

theorem likeness : Likeness (m.Becomes f) where
  id := by
    rintro e _ ⟨-, rfl⟩
    rfl
  edges := by
    rintro e _ ⟨he, rfl⟩
    exact (h.edges e he).symm

theorem select {s : Selector} (hmeets : ∀ route ∈ s.alternatives, ∀ step ∈ route, ∀ e ∈ m.nodes,
      Selector.meets step e.1 (f e.1 e.2) = Selector.meets step e.1 e.2) :
    (m.mapNodes f).select s = Fields.mapValues f (m.select s) := by
  have hnodes : List.Forall₂ (m.Becomes f) m.nodes (m.mapNodes f).nodes := by
    rw [h.nodes, Fields.mapValues, List.forall₂_map_right_iff, List.forall₂_same]
    exact fun e he => ⟨he, rfl⟩
  have hselect : List.Forall₂ (m.Becomes f) (m.select s) ((m.mapNodes f).select s) := by
    apply h.likeness.select hnodes
    rintro route hroute step hstep e _ ⟨he, rfl⟩
    exact (hmeets route hroute step hstep e he).symm
  have heq : List.Forall₂ Eq (Fields.mapValues f (m.select s)) ((m.mapNodes f).select s) := by
    rw [Fields.mapValues, List.forall₂_map_left_iff]
    exact hselect.imp fun e e' he => he.2.symm
  rw [List.forall₂_eq_eq_eq] at heq
  exact heq.symm

end Keeps

end Model

end ShapeGraph
