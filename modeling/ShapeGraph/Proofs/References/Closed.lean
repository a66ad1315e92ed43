import ShapeGraph.Proofs.Acceptance.Model
import ShapeGraph.Shape.Edge

namespace ShapeGraph

open Json (IsReference IsMember IsArrayOf IsObjectOf)

variable {allowed : String → Prop} {v : Json} {name : String} {e : Edge}

namespace Json

theorem getD_eq_null_or_get? (v : Json) (name : String) :
    v.getD name = .null ∨ v.get? name = some (v.getD name) := by
  cases h : v.get? name with
  | none => exact .inl (by simp [getD, h])
  | some x => exact .inr (by simp [getD, h])

theorem IsReference.allowed_of_target? {target : String} (h : v.IsReference allowed)
    (ht : v.target? = some target) : allowed target := by
  obtain ⟨target', hallowed, href⟩ := h
  rw [target?_eq_some_iff.2 href] at ht
  exact Option.some.inj ht ▸ hallowed

theorem IsMember.allowed_of_ofNode? {member : Member} (h : v.IsMember allowed)
    (hm : Member.ofNode? v = some member) : allowed member.target := by
  obtain ⟨target, hallowed, -, ht⟩ := h
  simp only [Member.ofNode?_eq, getD_eq_of_get? ht, str?, Option.map_some, Option.some.injEq] at hm
  rw [← hm]
  exact hallowed

end Json

namespace Edge

theorem allowed_ofMember (h : v.Present name (IsMember allowed)) (he : e ∈ ofMember v name) :
    allowed e.target := by
  obtain ⟨x, hx, hmember⟩ := h
  simp only [ofMember_json, Json.getD_eq_of_get? hx, Option.mem_toList, Option.map_eq_some_iff] at he
  obtain ⟨member, hm, rfl⟩ := he
  exact hmember.allowed_of_ofNode? hm

theorem allowed_ofMembers (h : v.WhenPresent "members" (IsObjectOf (IsMember allowed)))
    (he : e ∈ ofMembers v) : allowed e.target := by
  simp only [ofMembers_json, Member.ofNodes, List.mem_map, List.mem_filterMap,
    Option.map_eq_some_iff] at he
  obtain ⟨_, ⟨⟨key, item⟩, hmem, member, hm, rfl⟩, rfl⟩ := he
  obtain ⟨fs, hfs, hmem⟩ := Model.mem_fieldsD_getD_iff.1 hmem
  obtain ⟨_, hfs', hall⟩ := h _ hfs
  cases hfs'
  exact (hall key item hmem).allowed_of_ofNode? hm

theorem allowed_ofField (h : v.WhenPresent name (IsReference allowed)) (he : e ∈ ofField v name) :
    allowed e.target := by
  simp only [ofField_json, toTarget, Option.mem_toList, Option.map_eq_some_iff] at he
  obtain ⟨target, ht, rfl⟩ := he
  cases v.getD_eq_null_or_get? name with
  | inl hnull =>
    rw [hnull] at ht
    cases ht
  | inr hx => exact (h _ hx).allowed_of_target? ht

theorem target_mem_of_mem_ofList (he : e ∈ ofList v name) : e.target ∈ (v.getD name).targets := by
  simp only [ofList_json, toTargets, List.mem_map] at he
  obtain ⟨⟨target, i⟩, hmem, rfl⟩ := he
  exact List.fst_mem_of_mem_zipIdx hmem

theorem allowed_of_mem_targets (h : v.WhenPresent name (IsArrayOf (IsReference allowed)))
    {target : String} (ht : target ∈ (v.getD name).targets) : allowed target := by
  simp only [Json.targets, List.mem_filterMap] at ht
  obtain ⟨item, hmem, ht⟩ := ht
  cases v.getD_eq_null_or_get? name with
  | inl hnull => simp [hnull, Json.items?] at hmem
  | inr hx =>
    obtain ⟨items, heq, hall⟩ := h _ hx
    rw [heq] at hmem
    exact (hall item hmem).allowed_of_target? ht

theorem allowed_ofList (h : v.WhenPresent name (IsArrayOf (IsReference allowed)))
    (he : e ∈ ofList v name) : allowed e.target :=
  allowed_of_mem_targets h (target_mem_of_mem_ofList he)

theorem allowed_ofMap (h : v.WhenPresent name (IsObjectOf (IsReference allowed)))
    (he : e ∈ ofMap v name) : allowed e.target := by
  simp only [ofMap_json, toEntries, Json.targetMap, List.mem_map, List.mem_filterMap, Option.map_eq_some_iff] at he
  obtain ⟨_, ⟨⟨key, item⟩, hmem, target, ht, rfl⟩, rfl⟩ := he
  obtain ⟨fs, hfs, hmem⟩ := Model.mem_fieldsD_getD_iff.1 hmem
  obtain ⟨_, hfs', hall⟩ := h _ hfs
  cases hfs'
  exact (hall key item hmem).allowed_of_target? ht

theorem mem_ofKind_iff {k : Kind} : e ∈ ofKind v k ↔
    (∃ name ∈ k.memberFields, e ∈ ofMember v name)
      ∨ (k.hasMembers ∧ e ∈ ofMembers v)
      ∨ (∃ name ∈ k.referenceFields, e ∈ ofField v name)
      ∨ (∃ name ∈ k.referenceLists, e ∈ ofList v name)
      ∨ ∃ name ∈ k.referenceMaps, e ∈ ofMap v name := by
  cases h : k.hasMembers <;> simp [ofKind, h]

end Edge

namespace Kind

variable {k : Kind}

theorem Accepts.memberField (h : k.Accepts allowed v) (hname : name ∈ k.memberFields) :
    v.Present name (IsMember allowed) := by
  cases k with
  | list | set =>
    cases List.mem_singleton.1 hname
    exact h
  | map =>
    simp only [memberFields, List.mem_cons, List.not_mem_nil, or_false] at hname
    cases hname with
    | inl hkey => exact hkey ▸ h.1
    | inr hvalue => exact hvalue ▸ h.2
  | _ => simp [memberFields] at hname

theorem Accepts.members (h : k.Accepts allowed v) (hk : k.hasMembers) :
    v.WhenPresent "members" (IsObjectOf (IsMember allowed)) := by
  cases k with
  | struct => exact h.1
  | union => exact h
  | _ => simp [hasMembers] at hk

theorem Accepts.referenceField (h : k.Accepts allowed v) (hname : name ∈ k.referenceFields) :
    v.WhenPresent name (IsReference allowed) := by
  cases k with
  | operation => exact h.1 name hname
  | resource =>
    obtain ⟨l, -, rfl⟩ := List.mem_map.1 hname
    exact h.2.1 l
  | _ => simp [referenceFields] at hname

theorem Accepts.referenceList (h : k.Accepts allowed v) (hname : name ∈ k.referenceLists) :
    v.WhenPresent name (IsArrayOf (IsReference allowed)) ∨ k = .union ∧ name = "mixins" := by
  cases k with
  | struct =>
    cases List.mem_singleton.1 hname
    exact .inl h.2
  | union => exact .inr ⟨rfl, List.mem_singleton.1 hname⟩
  | service => exact .inl (h.2.1 name hname)
  | operation =>
    cases List.mem_singleton.1 hname
    exact .inl h.2
  | resource => exact .inl (h.2.2 name hname)
  | _ => simp [referenceLists] at hname

theorem Accepts.referenceMap (h : k.Accepts allowed v) (hname : name ∈ k.referenceMaps) :
    v.WhenPresent name (IsObjectOf (IsReference allowed)) := by
  cases k with
  | resource => exact h.1 name hname
  | _ => simp [referenceMaps] at hname

theorem Accepts.allowed_of_mem_ofKind (h : k.Accepts allowed v) (he : e ∈ Edge.ofKind v k) :
    allowed e.target ∨ k = .union ∧ e ∈ Edge.ofList v "mixins" := by
  rcases Edge.mem_ofKind_iff.1 he with ⟨name, hname, he⟩ | ⟨hk, he⟩ | ⟨name, hname, he⟩
    | ⟨name, hname, he⟩ | ⟨name, hname, he⟩
  · exact .inl (Edge.allowed_ofMember (h.memberField hname) he)
  · exact .inl (Edge.allowed_ofMembers (h.members hk) he)
  · exact .inl (Edge.allowed_ofField (h.referenceField hname) he)
  · cases h.referenceList hname with
    | inl hlist => exact .inl (Edge.allowed_ofList hlist he)
    | inr hunion => exact .inr ⟨hunion.1, hunion.2 ▸ he⟩
  · exact .inl (Edge.allowed_ofMap (h.referenceMap hname) he)

end Kind

theorem Json.IsShape.allowed_of_mem_edges (h : v.IsShape allowed) (he : e ∈ v.edges) :
    allowed e.target ∨ v.kind? = some .union ∧ e ∈ Edge.ofList v "mixins" := by
  obtain ⟨k, hk, haccepts⟩ := Json.isShape_iff.1 h
  simp only [Json.edges_eq, hk] at he
  cases haccepts.allowed_of_mem_ofKind he with
  | inl hallowed => exact .inl hallowed
  | inr hunion => exact .inr ⟨hunion.1 ▸ hk, hunion.2⟩

namespace Model

variable {m : Model} {id : String} {node : Json}

def IsClosed (m : Model) : Prop :=
  ∀ id node, (id, node) ∈ m.nodes → ∀ e ∈ node.edges, e.target ∈ m.ids

def HasUnionMixins (m : Model) : Prop :=
  ∀ id node, (id, node) ∈ m.nodes → node.kind? = some .union →
    ∀ target ∈ (node.getD "mixins").targets, target ∈ m.ids

theorem exists_edge_of_union_mixin (hk : node.kind? = some .union) {target : String}
    (ht : target ∈ (node.getD "mixins").targets) : ∃ e ∈ node.edges, e.target = target := by
  obtain ⟨i, hi⟩ := List.mem_iff_getElem?.1 ht
  have hlist : ⟨.item "mixins" i, target⟩ ∈ Edge.ofList node "mixins" := by
    rw [Edge.ofList_json]
    exact List.mem_map.2 ⟨(target, i), List.mk_mem_zipIdx_iff_getElem?.2 hi, rfl⟩
  refine ⟨⟨.item "mixins" i, target⟩, ?_, rfl⟩
  simp only [Json.edges_eq, hk]
  exact Edge.mem_ofKind_iff.2 (.inr (.inr (.inr (.inl ⟨"mixins", by decide, hlist⟩))))

theorem mem_ids_of_mem_edges {checks : Checks} (href : checks.references = true)
    (h : m.problems checks = []) (hmem : (id, node) ∈ m.nodes) (he : e ∈ node.edges) :
    e.target ∈ m.ids ∨ node.kind? = some .union ∧ e ∈ Edge.ofList node "mixins" := by
  have hids : m.ids ≠ [] := List.ne_nil_of_mem (mem_ids_of_mem_nodes hmem)
  have hshape := isShape_of_problems_eq_nil h hmem
  rw [href] at hshape
  simp only [allows_scope hids] at hshape
  exact hshape.allowed_of_mem_edges he

/-- In a model that a check with references accepts, an edge that leads to no shape is a mixin of a
union, and such edges are all that keeps the model from being closed. -/
theorem isClosed_iff_of_isValid {checks : Checks} (hvalid : (m.validate checks).isValid)
    (href : checks.references = true) :
    (∀ id node e, (id, node) ∈ m.nodes → e ∈ node.edges → e.target ∉ m.ids →
      node.kind? = some .union ∧ e ∈ Edge.ofList node "mixins")
    ∧ (m.IsClosed ↔ m.HasUnionMixins) := by
  have h : m.problems checks = [] := by simpa [Report.isValid, validate] using hvalid
  refine ⟨?_, ?_, ?_⟩
  · intro id node e hmem he hnot
    exact (mem_ids_of_mem_edges href h hmem he).resolve_left hnot
  · intro hclosed id node hmem hk target ht
    obtain ⟨e, he, rfl⟩ := exists_edge_of_union_mixin hk ht
    exact hclosed id node hmem e he
  · intro hunion id node hmem e he
    cases mem_ids_of_mem_edges href h hmem he with
    | inl hin => exact hin
    | inr hmixin =>
      exact hunion id node hmem hmixin.1 e.target (Edge.target_mem_of_mem_ofList hmixin.2)

def shop : Model where
  version := .str "2.0"
  metadata := none
  shapes := some (.obj
    [("Shop", .obj [("type", .str "service"), ("version", .str "1"),
      ("operations", .arr [.obj [("target", .str "Order")]])]),
     ("Order", .obj [("type", .str "operation"), ("input", .str "Basket"),
      ("errors", .arr [.str "Choice"])]),
     ("Basket", .obj [("type", .str "structure"),
      ("members", .obj [("items", .obj [("target", .str "Items")])])]),
     ("Items", .obj [("type", .str "list"), ("member", .obj [("target", .str "Choice")])]),
     ("Choice", .obj [("type", .str "union"), ("mixins", .arr [.str "Basket"]),
      ("members", .obj [("more", .obj [("target", .str "Items")])])])])

theorem isClosed_shop_iff :
    (shop.validate Checks.all).isValid ∧ (shop.IsClosed ↔ shop.HasUnionMixins) := by
  have hvalid : (shop.validate Checks.all).isValid := by decide
  exact ⟨hvalid, (isClosed_iff_of_isValid hvalid rfl).2⟩

def lostMixin : Model where
  version := .str "2.0"
  metadata := none
  shapes := some (.obj [("Choice", .obj [("type", .str "union"), ("mixins", .arr [.str "Lost"])])])

theorem lostMixin_isValid_not_isClosed :
    (lostMixin.validate Checks.all).isValid ∧ ¬ lostMixin.IsClosed := by
  constructor
  · decide
  · intro h
    have := h "Choice" _ (.head _) ⟨.item "mixins" 0, "Lost"⟩ (by decide)
    exact absurd this (by decide)

end Model

end ShapeGraph
