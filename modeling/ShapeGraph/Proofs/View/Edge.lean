import ShapeGraph.Proofs.Selector.Likeness
import ShapeGraph.Proofs.Selector.Traits
import ShapeGraph.Proofs.View.Written

namespace ShapeGraph

open Layered

variable {α τ σ : Type} [Layered α]

namespace Edge

def toMembers (members : Fields (Member τ)) : List Edge :=
  toEntries "members" (members.mapValues fun _ => Member.target)

def isMixin (e : Edge) : Bool :=
  match e.address with
  | .item name _ => name = "mixins"
  | _ => false

end Edge

open Edge

def Form.edges : Form τ → List Edge
  | .simple _ => []
  | .list m | .set m => [⟨.field "member", m.target⟩]
  | .map k v => [⟨.field "key", k.target⟩, ⟨.field "value", v.target⟩]
  | .struct members mixins => toMembers members ++ toTargets "mixins" mixins
  | .union members => toMembers members
  | .service s =>
    toTargets "operations" s.operations ++ toTargets "resources" s.resources
      ++ toTargets "errors" s.errors
  | .operation o =>
    toTarget "input" o.input ++ toTarget "output" o.output ++ toTargets "errors" o.errors
  | .resource r =>
    Lifecycle.all.flatMap (fun l => toTarget l.name (r.bound l))
      ++ toTargets "operations" r.operations
      ++ toTargets "collectionOperations" r.collectionOperations
      ++ toTargets "resources" r.resources
      ++ toEntries "identifiers" r.identifiers ++ toEntries "properties" r.properties

variable {traits : α → τ} {v : α} {k : Kind} {form : Form τ} {name : String}

namespace Edge

theorem ofMember_of_read {m : Member τ} (h : (get? v name).bind (Member.read traits) = some m) :
    ofMember v name = [⟨.field name, m.target⟩] := by
  obtain ⟨x, hx, hm⟩ := Option.bind_eq_some_iff.1 h
  obtain ⟨target, htarget, rfl⟩ := Option.map_eq_some_iff.1 hm
  rw [ofMember, hx, Option.bind_some, htarget]
  rfl

theorem ofMembers_eq (traits : α → τ) (v : α) :
    ofMembers v = toMembers (mapOf (Member.read traits) v "members") := by
  rw [toMembers, Fields.mapValues, mapOf, List.map_filterMap]
  simp only [Member.read, Option.map_map]
  rfl

end Edge

theorem Form.ofKind_eq (h : read traits v k = some form) :
    ofKind v k = form.edges ++ if k = .union then ofList v "mixins" else [] := by
  cases k with
  | simple k =>
    cases h
    rfl
  | list | set =>
    obtain ⟨m, hm, rfl⟩ := Option.map_eq_some_iff.1 h
    simp [ofKind, Kind.memberFields, Kind.hasMembers, Kind.referenceFields, Kind.referenceLists,
      Kind.referenceMaps, ofMember_of_read hm, edges]
  | map =>
    obtain ⟨key, hkey, h⟩ := Option.bind_eq_some_iff.1 h
    obtain ⟨value, hvalue, rfl⟩ := Option.map_eq_some_iff.1 h
    simp [ofKind, Kind.memberFields, Kind.hasMembers, Kind.referenceFields, Kind.referenceLists,
      Kind.referenceMaps, ofMember_of_read hkey, ofMember_of_read hvalue, edges]
  | _ =>
    cases h
    simp [ofKind, Kind.memberFields, Kind.hasMembers, Kind.referenceFields, Kind.referenceLists,
      Kind.referenceMaps, ofMembers_eq traits, ofField, ofList, ofMap, edges, Lifecycle.all]

theorem Edge.isMixin_of_mem_ofList {e : Edge} (h : e ∈ ofList v "mixins") : e.isMixin := by
  obtain ⟨p, -, rfl⟩ := List.mem_map.1 h
  rfl

/-- A view has no place for the edges from a union to its mixins. -/
def Shape.Loses (s : Shape τ) (e : Edge) : Prop := s.kind = .union ∧ e.isMixin

instance (s : Shape τ) : DecidablePred s.Loses := fun _ => inferInstanceAs (Decidable (_ ∧ _))

theorem Shape.not_loses_of_mem_edges {s : Shape τ} {e : Edge} (h : e ∈ s.form.edges) :
    ¬ s.Loses e := by
  rintro ⟨hk, hmixin⟩
  obtain ⟨id, traits, form⟩ := s
  cases form with
  | union members =>
    obtain ⟨p, -, rfl⟩ := List.mem_map.1 h
    exact Bool.false_ne_true hmixin
  | _ => cases hk

namespace Shape

variable {id : String} {s : Shape τ}

theorem edges_of_read (h : read traits id v = some s) :
    edges v = s.form.edges ++ if s.kind = .union then ofList v "mixins" else [] := by
  obtain ⟨-, hk, -, hform⟩ := read_eq_some_iff.1 h
  rw [edges, hk]
  exact Form.ofKind_eq hform

theorem edges_shape {W : Writer τ α} (h : W.Faithful traits) (s : Shape τ) :
    edges (W.shape s) = s.form.edges := by
  rw [edges_of_read (h.read_shape s)]
  split
  · next hunion =>
    obtain ⟨id, traits, form⟩ := s
    cases form with
    | union members =>
      -- the view of a union is written without mixins
      rw [ofList, targetsOf, itemsOf, h.get?_shape _ (by decide)]
      exact List.append_nil _
    | _ => cases hunion
  · exact List.append_nil _

theorem filter_edges (h : read traits id v = some s) :
    (edges v).filter (fun e => ¬ s.Loses e) = s.form.edges := by
  have hkept : s.form.edges.filter (fun e => ¬ s.Loses e) = s.form.edges := by
    rw [List.filter_eq_self]
    intro e he
    exact decide_eq_true (not_loses_of_mem_edges he)
  rw [edges_of_read h, List.filter_append, hkept]
  split
  · next hunion =>
    rw [List.append_right_eq_self, List.filter_eq_nil_iff]
    intro e he hkeep
    exact of_decide_eq_true hkeep ⟨hunion, isMixin_of_mem_ofList he⟩
  · exact List.append_nil _

theorem edges_toNode (s : Shape) : s.toNode.edges = s.form.edges := edges_shape Json.faithful s

end Shape

section

variable {ε : Type} {f : τ → Except ε σ}

theorem Member.target_of_mapTraits {m : Member τ} {m' : Member σ} (h : m.mapTraits f = .ok m') :
    m'.target = m.target := by
  obtain ⟨traits, -, h⟩ := bind_eq_ok_iff.1 h
  cases h
  rfl

theorem toMembers_of_mapTraits {ms : Fields (Member τ)} {ms' : Fields (Member σ)}
    (h : (ms.mapM fun (name, m) => do return (name, ← m.mapTraits f)) = .ok ms') :
    toMembers ms' = toMembers ms := by
  rw [toMembers, Fields.mapValues, toMembers, Fields.mapValues]
  refine congrArg (toEntries "members") (map_of_mapM_eq_ok ?_ h)
  intro e e' he
  obtain ⟨m, hm, he⟩ := bind_eq_ok_iff.1 he
  cases he
  exact congrArg (Prod.mk e.1) (Member.target_of_mapTraits hm)

theorem Form.edges_of_mapTraits {form : Form τ} {form' : Form σ}
    (h : form.mapTraits f = .ok form') : form'.edges = form.edges ∧ form'.kind = form.kind := by
  cases form with
  | list m | set m =>
    obtain ⟨m', hm, h⟩ := bind_eq_ok_iff.1 h
    cases h
    exact ⟨by rw [edges, Member.target_of_mapTraits hm, edges], rfl⟩
  | map key value =>
    obtain ⟨key', hkey, h⟩ := bind_eq_ok_iff.1 h
    obtain ⟨value', hvalue, h⟩ := bind_eq_ok_iff.1 h
    cases h
    refine ⟨?_, rfl⟩
    rw [edges, Member.target_of_mapTraits hkey, Member.target_of_mapTraits hvalue, edges]
  | struct ms mixins | union ms =>
    obtain ⟨ms', hms, h⟩ := bind_eq_ok_iff.1 h
    cases h
    exact ⟨by rw [edges, toMembers_of_mapTraits hms, edges], rfl⟩
  | _ =>
    cases h
    exact ⟨rfl, rfl⟩

theorem Shape.edges_of_mapTraits {s : Shape τ} {s' : Shape σ} (h : s.mapTraits f = .ok s') :
    s'.form.edges = s.form.edges ∧ ∀ e, s'.Loses e ↔ s.Loses e := by
  obtain ⟨form, hform, h⟩ := bind_eq_ok_iff.1 h
  obtain ⟨traits, -, h⟩ := bind_eq_ok_iff.1 h
  cases h
  obtain ⟨hedges, hkind⟩ := Form.edges_of_mapTraits hform
  refine ⟨hedges, fun e => ?_⟩
  rw [Loses, Shape.kind, hkind]
  rfl

end

structure Alike (e e' : String × Json) : Prop where
  id : e.1 = e'.1
  isObject : e.2.isObject = e'.2.isObject
  edges : e.2.edges = e'.2.edges
  meets : ∀ step, Selector.meets step e.1 e.2 = Selector.meets step e'.1 e'.2

theorem Alike.refl (e : String × Json) : Alike e e := ⟨rfl, rfl, rfl, fun _ => rfl⟩

theorem likeness_alike : Likeness Alike := ⟨Alike.id, Alike.edges⟩

namespace Shape

variable {id : String} {s : Shape} {v : Json}

theorem meets_toNode (h : ofNode? id v = some s) (step : Compound) :
    Selector.meets step id v = Selector.meets step id s.toNode := by
  obtain ⟨-, hk, htraits, -⟩ := ofNode?_eq_some_iff.1 h
  apply Predicate.allHold_congr
  · have htype (node : Json) (hk : node.kind? = some s.kind) :
        node.getD "type" = .str s.kind.name :=
      Json.getD_eq_of_get? (Json.kind?_eq_some_iff.1 hk)
    rw [htype v hk, htype s.toNode s.kind?_toNode]
  · intro t _
    rw [Applied.has_eq, Applied.has_eq]
    exact congrArg (fun traits => (Applied.get? traits t).isSome)
      (htraits.trans s.traits_toNode.symm)

theorem alike_toNode (h : ofNode? id v = some s) (hkept : ∀ e ∈ v.edges, ¬ s.Loses e) :
    Alike (id, v) (id, s.toNode) where
  id := rfl
  isObject := by
    rw [Json.isObject_of_kind? (ofNode?_eq_some_iff.1 h).2.1, Json.isObject_of_kind? s.kind?_toNode]
  edges := by
    rw [edges_toNode, ← filter_edges h]
    exact (List.filter_eq_self.2 fun e he => decide_eq_true (hkept e he)).symm
  meets := meets_toNode h

end Shape

theorem Model.exists_addShape_toNode {m : Model} {id : String} {node : Json} {s : Shape}
    (hnode : m.node? id = some node) (h : Shape.ofNode? id node = some s)
    (hkept : ∀ e ∈ node.edges, ¬ s.Loses e) :
    ∃ m', m.addShape id s.toNode = .ok m' ∧ List.Forall₂ Alike m.nodes m'.nodes := by
  obtain ⟨hget, -⟩ := Option.filter_eq_some_iff.1 hnode
  refine ⟨m.withEntries (m.entries.set id s.toNode), ?_, ?_⟩
  · rw [addShape, shapes_of_get? hget]
  · apply Likeness.filter
    · exact Fields.forall₂_set Alike.refl hget (Shape.alike_toNode h hkept)
    · exact fun e e' he => he.isObject

namespace Shape

/-- The edges of a view are those of the node or value that it was read from, less those from a
union to its mixins. Where there are none of these, the node may be replaced by its view: every
choice of shapes has the neighbours that it had, and every selector selects the same. -/
theorem keeps_edges (id : String) :
    (∀ (g : Graph) (v : Built (Fin g.size)) s,
      read Layered.traits id v = some s →
        edges (Built.writer.shape s) = (edges v).filter (fun e => ¬ s.Loses e)
          ∧ (edges (Built.writer.shape s) = edges v ↔ ∀ e ∈ edges v, ¬ s.Loses e))
    ∧ ∀ (s : Shape) (es : List Edge), ((∃ v, ofNode? id v = some s ∧ v.edges = es)
        ∨ ∃ (g : Graph) (v : Fin g.size) (s' : Shape _),
          g.shape? id v = some s' ∧ g.dataShape s' = .ok s ∧ g.edges v = es) →
      s.toNode.edges = es.filter (fun e => ¬ s.Loses e)
        ∧ (s.toNode.edges = es ↔ ∀ e ∈ es, ¬ s.Loses e)
        ∧ ∀ (m : Model) (node : Json), m.node? id = some node → ofNode? id node = some s →
          (∀ e ∈ node.edges, ¬ s.Loses e) →
          ∃ m', m.addShape id s.toNode = .ok m'
            ∧ (∀ chosen : String → Bool,
              Fields.keys (Selector.neighbours m'.nodes (m'.nodes.filter fun e => chosen e.1))
                = Fields.keys (Selector.neighbours m.nodes (m.nodes.filter fun e => chosen e.1)))
            ∧ ∀ selector, (m'.select selector).keys = (m.select selector).keys := by
  have hiff {τ : Type} {s : Shape τ} {es : List Edge} :
      es.filter (fun e => ¬ s.Loses e) = es ↔ ∀ e ∈ es, ¬ s.Loses e := by
    rw [List.filter_eq_self]
    simp only [decide_eq_true_eq]
  constructor
  · intro g v s hs
    rw [edges_shape Built.faithful, ← filter_edges hs]
    exact ⟨rfl, hiff⟩
  · intro s es h
    have hkept : s.toNode.edges = es.filter (fun e => ¬ s.Loses e) := by
      rw [edges_toNode]
      rcases h with ⟨v, hv, rfl⟩ | ⟨g, v, s', hv, hdata, rfl⟩
      · exact (filter_edges hv).symm
      · obtain ⟨hedges, hloses⟩ := edges_of_mapTraits hdata
        rw [hedges, ← filter_edges hv]
        simp only [hloses]
        rfl
    refine ⟨hkept, by rw [hkept, hiff], ?_⟩
    intro m node hnode hs hnone
    obtain ⟨m', hadd, hnodes⟩ := Model.exists_addShape_toNode hnode hs hnone
    refine ⟨m', hadd, ?_, ?_⟩
    · intro chosen
      have hchosen : List.Forall₂ Alike (m.nodes.filter fun e => chosen e.1)
          (m'.nodes.filter fun e => chosen e.1) :=
        Likeness.filter hnodes fun e e' he => congrArg chosen he.id
      exact (likeness_alike.keys (likeness_alike.neighbours hnodes hchosen)).symm
    · -- a view keeps the kind and the traits, which is all that a step asks of a node
      intro selector
      have hselect : List.Forall₂ Alike (m.select selector) (m'.select selector) :=
        likeness_alike.select hnodes fun _ _ step _ e e' he => he.meets step
      exact (likeness_alike.keys hselect).symm

def store : Model where
  version := .str "2.0"
  metadata := none
  shapes := some (.obj [("Base", .obj [("type", .str "structure")]), ("Crate", crate)])

theorem crate_keeps_edges : ofNode? "Crate" crate = some crateView
    ∧ crateView.toNode.edges = crate.edges
    ∧ ∃ m', store.addShape "Crate" crateView.toNode = .ok m'
      ∧ (∀ chosen : String → Bool,
        Fields.keys (Selector.neighbours m'.nodes (m'.nodes.filter fun e => chosen e.1))
          = Fields.keys
              (Selector.neighbours store.nodes (store.nodes.filter fun e => chosen e.1)))
      ∧ (∀ selector, (m'.select selector).keys = (store.select selector).keys)
      ∧ ∃ s, read Layered.traits "Rack" (Built.old (⟨0, by decide⟩ : Fin rack.size)) = some s
        ∧ edges (Built.writer.shape s) = edges (Built.old (⟨0, by decide⟩ : Fin rack.size)) := by
  have hview : ofNode? "Crate" crate = some crateView := by rfl
  have hnone : ∀ e ∈ crate.edges, ¬ crateView.Loses e := by decide
  obtain ⟨-, hedges, hmodel⟩ := (keeps_edges "Crate").2 _ _ (.inl ⟨crate, hview, rfl⟩)
  obtain ⟨m', hadd, hneighbours, hselect⟩ := hmodel store crate rfl hview hnone
  refine ⟨hview, hedges.2 hnone, m', hadd, hneighbours, hselect, _, rfl, ?_⟩
  exact ((keeps_edges "Rack").1 rack (.old ⟨0, by decide⟩) _ rfl).2.2 (by decide)

def choice : Json := .obj [("type", .str "union"), ("mixins", .arr [.str "Base"])]

def choices : Model where
  version := .str "2.0"
  metadata := none
  shapes := some (.obj [("Base", .obj [("type", .str "structure")]), ("Choice", choice)])

theorem choice_loses_edge : ∃ s, ofNode? "Choice" choice = some s
    ∧ s.toNode.edges ≠ choice.edges
    ∧ ∃ m', choices.addShape "Choice" s.toNode = .ok m'
      ∧ Fields.keys (Selector.neighbours choices.nodes
          (choices.nodes.filter fun e => e.1 = "Choice")) = ["Base"]
      ∧ Fields.keys (Selector.neighbours m'.nodes
          (m'.nodes.filter fun e => e.1 = "Choice")) = [] := by
  exact ⟨⟨"Choice", [], .union []⟩, rfl, by decide, _, rfl, rfl, rfl⟩

end Shape

end ShapeGraph
