import ShapeGraph.Model.Basic
import ShapeGraph.Proofs.Acceptance.Shape

namespace ShapeGraph

theorem Json.isObject_of_kind? {v : Json} {k : Kind} (h : v.kind? = some k) : v.isObject := by
  obtain ⟨fs, rfl, -⟩ := Json.get?_eq_some_iff.1 (Json.kind?_eq_some_iff.1 h)
  rfl

namespace Model

variable {m : Model} {id : String}

theorem shapes_of_get? {node : Json} (h : m.entries.get? id = some node) :
    m.shapes = some (.obj m.entries) := by
  rw [entries] at h ⊢
  cases hs : m.shapes with
  | none =>
    rw [hs] at h
    cases h
  | some v =>
    rw [hs] at h
    cases v with
    | obj fs => rfl
    | _ => cases h

theorem mem_ids_of_node? {node : Json} (h : m.node? id = some node) : id ∈ m.ids := by
  rw [ids, ← Fields.has_iff_mem_keys, Fields.has]
  simp only [node?, Option.filter_eq_some_iff] at h
  rw [h.1, Option.isSome_some]

theorem mem_nodes_of_node? {node : Json} (h : m.node? id = some node) : (id, node) ∈ m.nodes := by
  obtain ⟨hget, hobj⟩ := Option.filter_eq_some_iff.1 h
  exact List.mem_filter.2 ⟨Fields.mem_of_get? hget, hobj⟩

theorem shape?_eq_some_iff {s : Shape} :
    m.shape? id = some s ↔ ∃ node, m.node? id = some node ∧ Shape.ofNode? id node = some s := by
  simp only [shape?, node?, Option.bind_eq_some_iff, Option.filter_eq_some_iff]
  refine exists_congr fun node => ⟨fun h => ⟨⟨h.1, ?_⟩, h.2⟩, fun h => ⟨h.1.1, h.2⟩⟩
  exact Json.isObject_of_kind? (Shape.ofNode?_eq_some_iff.1 h.2).2.1

theorem shape?_of_ofNode? {node : Json} {k : Kind} {form : Form} (hnode : m.node? id = some node)
    (hk : node.kind? = some k) (hform : Form.ofNode? node k = some form) :
    m.shape? id = some ⟨id, node.traits, form⟩ :=
  shape?_eq_some_iff.2 ⟨node, hnode, by rw [Shape.ofNode?_eq, hk, Option.bind_some, hform]; rfl⟩

theorem mem_ids_of_shape? {s : Shape} (h : m.shape? id = some s) : id ∈ m.ids := by
  obtain ⟨node, hnode, -⟩ := shape?_eq_some_iff.1 h
  exact mem_ids_of_node? hnode

end Model

end ShapeGraph
