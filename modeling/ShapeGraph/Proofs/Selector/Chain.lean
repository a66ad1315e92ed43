import Mathlib.Data.List.Chain
import Mathlib.Data.List.Forall2
import ShapeGraph.Selector.Matching

namespace ShapeGraph

theorem Predicate.allHold_iff {id : String} {node : Json} {compound : Compound} :
    Predicate.allHold id node compound ↔ ∀ p ∈ compound, p.holds id node := by
  induction compound with
  | nil => simp [Predicate.allHold]
  | cons p ps ih => simp [Predicate.allHold, ih]

namespace Model

def Meets (m : Model) (step : Compound) (id : String) : Prop :=
  ∃ node, m.node? id = some node ∧ ∀ p ∈ step, p.holds id node

def RefersTo (m : Model) (id next : String) : Prop :=
  ∃ node, m.node? id = some node ∧ ∃ e ∈ node.edges, e.target = next

/-- Shapes that meet the steps of a route one by one, each of them referring to the next. -/
structure IsChain (m : Model) (route : Route) (ids : List String) : Prop where
  meets : List.Forall₂ m.Meets route ids
  refers : ids.IsChain m.RefersTo

def IsSelected (m : Model) (s : Selector) (id : String) : Prop :=
  ∃ route ∈ s.alternatives, ∃ ids, m.IsChain route ids ∧ ids.getLast? = some id

variable {m : Model} {id : String} {node : Json}

theorem mem_nodes_iff (hd : m.entries.Distinct) :
    (id, node) ∈ m.nodes ↔ m.node? id = some node := by
  simp only [nodes, node?, List.mem_filter, Option.filter_eq_some_iff]
  constructor
  · intro h
    exact ⟨hd.get?_of_mem h.1, h.2⟩
  · intro h
    exact ⟨Fields.mem_of_get? h.1, h.2⟩

theorem mem_keys_of_meets (hd : m.entries.Distinct) {step : Compound} (h : m.Meets step id) :
    id ∈ m.nodes.keys := by
  obtain ⟨node, hnode, -⟩ := h
  exact Fields.mem_keys_iff.2 ⟨node, (mem_nodes_iff hd).2 hnode⟩

section

variable {current : Fields Json} (hd : m.entries.Distinct) (hsub : current ⊆ m.nodes)

include hd hsub

theorem exists_mem_iff {P : Json → Prop} :
    (∃ node, (id, node) ∈ current ∧ P node)
      ↔ id ∈ current.keys ∧ ∃ node, m.node? id = some node ∧ P node := by
  rw [Fields.mem_keys_iff]
  constructor
  · intro h
    obtain ⟨node, hmem, hP⟩ := h
    exact ⟨⟨node, hmem⟩, node, (mem_nodes_iff hd).1 (hsub hmem), hP⟩
  · intro h
    obtain ⟨⟨node, hmem⟩, node', hnode', hP⟩ := h
    have hnode := (mem_nodes_iff hd).1 (hsub hmem)
    rw [hnode] at hnode'
    cases hnode'
    exact ⟨node, hmem, hP⟩

theorem mem_keys_filter_iff {step : Compound} :
    id ∈ Fields.keys (current.filter fun (id, node) => Selector.meets step id node)
      ↔ id ∈ current.keys ∧ m.Meets step id := by
  rw [Fields.mem_keys_iff]
  simp only [List.mem_filter, Selector.meets, Predicate.allHold_iff]
  exact exists_mem_iff hd hsub

theorem mem_keys_neighbours_iff :
    id ∈ Fields.keys (Selector.neighbours m.nodes current)
      ↔ id ∈ m.nodes.keys ∧ ∃ before ∈ current.keys, m.RefersTo before id := by
  have htarget : id ∈ (current.flatMap fun (_, node) => node.edges.map Edge.target)
      ↔ ∃ before ∈ current.keys, m.RefersTo before id := by
    simp only [List.mem_flatMap, List.mem_map, Prod.exists]
    exact exists_congr fun before => exists_mem_iff hd hsub
  rw [← htarget]
  simp [Fields.keys, Selector.neighbours]

theorem mem_keys_step_iff {step : Compound} :
    id ∈ Fields.keys ((Selector.neighbours m.nodes current).filter
        fun (id, node) => Selector.meets step id node)
      ↔ m.Meets step id ∧ ∃ before ∈ current.keys, m.RefersTo before id := by
  have hnodes : Selector.neighbours m.nodes current ⊆ m.nodes := List.filter_subset_self _
  rw [mem_keys_filter_iff hd hnodes, mem_keys_neighbours_iff hd hsub]
  constructor
  · intro h
    exact ⟨h.2, h.1.2⟩
  · intro h
    exact ⟨⟨mem_keys_of_meets hd h.1, h.2⟩, h.1⟩

end

theorem step_subset_nodes {current : Fields Json} {step : Compound} :
    ((Selector.neighbours m.nodes current).filter fun (id, node) => Selector.meets step id node)
      ⊆ m.nodes := by
  intro x hx
  exact List.mem_of_mem_filter (List.mem_of_mem_filter hx)

theorem mem_keys_follow_iff (hd : m.entries.Distinct) {current : Fields Json}
    (hsub : current ⊆ m.nodes) (steps : List Compound) :
    id ∈ Fields.keys (Selector.follow m.nodes current steps)
      ↔ ∃ start ∈ current.keys, ∃ ids, List.Forall₂ m.Meets steps ids
        ∧ (start :: ids).IsChain m.RefersTo ∧ (start :: ids).getLast? = some id := by
  -- `current` holds the ends of the chains so far, each of which the next step makes one longer.
  induction steps generalizing current with
  | nil =>
    rw [Selector.follow]
    constructor
    · intro h
      exact ⟨id, h, [], .nil, .singleton id, rfl⟩
    · intro h
      obtain ⟨start, hstart, ids, hmeets, -, hlast⟩ := h
      cases hmeets
      cases hlast
      exact hstart
  | cons step steps ih =>
    rw [Selector.follow, ih step_subset_nodes]
    simp only [mem_keys_step_iff hd hsub]
    constructor
    · intro h
      obtain ⟨next, ⟨hnext, before, hbefore, href⟩, ids, hmeets, hchain, hlast⟩ := h
      exact ⟨before, hbefore, next :: ids, .cons hnext hmeets, .cons_cons href hchain,
        by simpa using hlast⟩
    · intro h
      obtain ⟨before, hbefore, ids, hmeets, hchain, hlast⟩ := h
      cases hmeets with
      | cons hnext hmeets =>
        cases hchain with
        | cons_cons href hchain =>
          exact ⟨_, ⟨hnext, before, hbefore, href⟩, _, hmeets, hchain, by simpa using hlast⟩

theorem mem_keys_evaluateRoute_iff (hd : m.entries.Distinct) {route : Route} :
    id ∈ Fields.keys (Selector.evaluateRoute m.nodes route)
      ↔ ∃ ids, m.IsChain route ids ∧ ids.getLast? = some id := by
  cases route with
  | nil =>
    constructor
    · intro h
      cases h
    · intro h
      obtain ⟨ids, ⟨hmeets, -⟩, hlast⟩ := h
      cases hmeets
      cases hlast
  | cons step steps =>
    have hsub : (m.nodes.filter fun (id, node) => Selector.meets step id node) ⊆ m.nodes :=
      List.filter_subset_self _
    rw [Selector.evaluateRoute, mem_keys_follow_iff hd hsub]
    simp only [mem_keys_filter_iff hd (List.Subset.refl _)]
    constructor
    · intro h
      obtain ⟨start, hstart, ids, hmeets, hchain, hlast⟩ := h
      exact ⟨start :: ids, ⟨.cons hstart.2 hmeets, hchain⟩, hlast⟩
    · intro h
      obtain ⟨ids, ⟨hmeets, hchain⟩, hlast⟩ := h
      cases hmeets with
      | cons hstart hmeets =>
        exact ⟨_, ⟨mem_keys_of_meets hd hstart, hstart⟩, _, hmeets, hchain, hlast⟩

theorem mem_select_iff (hd : m.entries.Distinct) {s : Selector} :
    (id, node) ∈ m.select s ↔ m.node? id = some node ∧ m.IsSelected s id := by
  simp only [select, List.mem_filter, mem_nodes_iff hd, List.contains_iff_mem, List.mem_flatMap,
    mem_keys_evaluateRoute_iff hd]
  exact Iff.rfl

/-- Where each id has one entry, as in every object, a selector lists the ends of the chains of its
alternatives, in the order of the model and each of them once. -/
theorem select_lists_chain_ends (hd : m.entries.Distinct) (s : Selector) :
    (m.select s).Sublist m.entries ∧ (m.select s).keys.Nodup
      ∧ ∀ id node, (id, node) ∈ m.select s ↔ m.node? id = some node ∧ m.IsSelected s id := by
  have hsub : (m.select s).Sublist m.entries := List.filter_sublist.trans List.filter_sublist
  exact ⟨hsub, hd.sublist (hsub.map Prod.fst), fun id node => mem_select_iff hd⟩

def ring : Model where
  version := .str "2.0"
  metadata := none
  shapes := some (.obj
    [("Row", .obj [("type", .str "list"), ("member", .obj [("target", .str "Bag")])]),
     ("Bag", .obj [("type", .str "set"), ("member", .obj [("target", .str "Row")])]),
     ("Void", .obj [("type", .str "list"), ("member", .obj [("target", .str "Gone")])])])

def listsAtTwo : Selector where
  text := "list > * > list"
  alternatives := [[[.kind .list], [.any], [.kind .list]]]

theorem select_listsAtTwo_ring : ring.entries.Distinct
    ∧ ring.IsSelected listsAtTwo "Row" ∧ ¬ ring.IsSelected listsAtTwo "Void" := by
  have hd : ring.entries.Distinct := by
    unfold Fields.Distinct
    decide
  have hmem := (select_lists_chain_ends hd listsAtTwo).2.2
  refine ⟨hd, ((hmem "Row" _).1 (.head _)).2, ?_⟩
  intro h
  have hvoid := Fields.mem_keys_iff.2 ⟨_, (hmem "Void" _).2 ⟨rfl, h⟩⟩
  exact absurd hvoid (by decide)

end Model

end ShapeGraph
