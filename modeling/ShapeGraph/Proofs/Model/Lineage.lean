import Mathlib.Logic.Relation
import ShapeGraph.Model.Lineage
import ShapeGraph.Proofs.Model.Lookup

namespace ShapeGraph

namespace Model

variable {m : Model}

def Mixes (m : Model) (id base : String) : Prop :=
  ∃ node, m.node? id = some node ∧ node.kind? = some .struct ∧ base ∈ (node.getD "mixins").targets

abbrev BuiltOn (m : Model) : String → String → Prop := Relation.ReflTransGen m.Mixes

theorem mem_mixins_iff {id base : String} : base ∈ m.mixins id ↔ m.Mixes id base := by
  simp only [mixins, Mixes]
  constructor
  · intro h
    split at h
    · next members mixins hform =>
      obtain ⟨s, hs, hform⟩ := Option.map_eq_some_iff.1 hform
      obtain ⟨node, hnode, hs⟩ := shape?_eq_some_iff.1 hs
      obtain ⟨-, hk, -, hof⟩ := Shape.ofNode?_eq_some_iff.1 hs
      rw [Shape.kind, hform] at hk hof
      rw [Form.ofNode?_eq] at hof
      cases hof
      exact ⟨node, hnode, hk, h⟩
    · cases h
  · intro h
    obtain ⟨node, hnode, hk, hbase⟩ := h
    rw [shape?_of_ofNode? hnode hk (Form.ofNode?_eq node .struct)]
    exact hbase

inductive Visits (m : Model) : Walk → List String → Walk → Prop
  | done {w : Walk} : Visits m w [] w
  | seen {w w' : Walk} {id : String} {ids : List String} :
      id ∈ w.seen → Visits m w ids w' → Visits m w (id :: ids) w'
  | enter {w w₁ w' : Walk} {id : String} {ids : List String} :
      id ∉ w.seen → Visits m { w with seen := id :: w.seen } (m.mixins id) w₁ →
      Visits m { w₁ with order := w₁.order ++ [id] } ids w' → Visits m w (id :: ids) w'

/-- What is known of the ids `left` that visits to `ids` put in order. -/
structure Explores (m : Model) (w : Walk) (ids : List String) (w' : Walk) (left : List String) :
    Prop where
  order : w'.order = w.order ++ left
  mem_seen_iff : ∀ u, u ∈ w'.seen ↔ u ∈ w.seen ∨ u ∈ left
  fresh : ∀ u ∈ left, u ∉ w.seen
  nodup : left.Nodup
  visited : ∀ id ∈ ids, id ∈ w'.seen
  builtOn : ∀ u ∈ left, ∃ id ∈ ids, m.BuiltOn id u
  closed : ∀ u ∈ left, ∀ v, m.Mixes u v → v ∈ w'.seen
  sorted : ∀ u ∈ left, ∀ v, m.Mixes u v → [v, u].Sublist left ∨ v ∈ w.seen ∨ m.BuiltOn v u

namespace Explores

variable {w w₁ w' : Walk} {id : String} {ids left left₁ : List String}

theorem done : m.Explores w [] w [] where
  order := by simp
  mem_seen_iff := by simp
  fresh := by simp
  nodup := by simp
  visited := by simp
  builtOn := by simp
  closed := by simp
  sorted := by simp

theorem seen (hid : id ∈ w.seen) (h : m.Explores w ids w' left) :
    m.Explores w (id :: ids) w' left where
  order := h.order
  mem_seen_iff := h.mem_seen_iff
  fresh := h.fresh
  nodup := h.nodup
  visited := by
    intro u hu
    rcases List.mem_cons.1 hu with rfl | hu
    · exact (h.mem_seen_iff u).2 (.inl hid)
    · exact h.visited u hu
  builtOn := by
    intro u hu
    obtain ⟨v, hv, hvu⟩ := h.builtOn u hu
    exact ⟨v, List.mem_cons_of_mem id hv, hvu⟩
  closed := h.closed
  sorted := h.sorted

theorem leave (hid : id ∉ w.seen)
    (h : m.Explores { w with seen := id :: w.seen } (m.mixins id) w₁ left) :
    m.Explores w [id] { w₁ with order := w₁.order ++ [id] } (left ++ [id]) where
  order := by simp [h.order]
  mem_seen_iff := by
    intro u
    simp only [h.mem_seen_iff, List.mem_cons, List.mem_append, List.not_mem_nil, or_false]
    tauto
  fresh := by
    intro u hu
    rcases List.mem_append.1 hu with hu | hu
    · exact fun hmem => h.fresh u hu (List.mem_cons_of_mem id hmem)
    · exact List.mem_singleton.1 hu ▸ hid
  nodup := by
    refine List.nodup_append.2 ⟨h.nodup, by simp, ?_⟩
    rintro a ha b hb rfl
    exact h.fresh a ha (List.mem_singleton.1 hb ▸ List.mem_cons_self)
  visited := by
    intro u hu
    exact (h.mem_seen_iff u).2 (.inl (List.mem_singleton.1 hu ▸ List.mem_cons_self))
  builtOn := by
    intro u hu
    refine ⟨id, List.mem_singleton_self id, ?_⟩
    rcases List.mem_append.1 hu with hu | hu
    · obtain ⟨v, hv, hvu⟩ := h.builtOn u hu
      exact .head (mem_mixins_iff.1 hv) hvu
    · exact List.mem_singleton.1 hu ▸ .refl
  closed := by
    intro u hu v huv
    rcases List.mem_append.1 hu with hu | hu
    · exact h.closed u hu v huv
    · cases List.mem_singleton.1 hu
      exact h.visited v (mem_mixins_iff.2 huv)
  sorted := by
    intro u hu v huv
    rcases List.mem_append.1 hu with hleft | hu
    · rcases h.sorted u hleft v huv with hvu | hv | hvu
      · exact .inl (hvu.trans (List.sublist_append_left left [id]))
      · rcases List.mem_cons.1 hv with rfl | hv
        · obtain ⟨b, hb, hbu⟩ := h.builtOn u hleft
          exact .inr (.inr (.head (mem_mixins_iff.1 hb) hbu))
        · exact .inr (.inl hv)
      · exact .inr (.inr hvu)
    · cases List.mem_singleton.1 hu
      rcases (h.mem_seen_iff v).1 (h.visited v (mem_mixins_iff.2 huv)) with hv | hv
      · rcases List.mem_cons.1 hv with rfl | hv
        · exact .inr (.inr .refl)
        · exact .inr (.inl hv)
      · exact .inl ((List.singleton_sublist.2 hv).append (List.Sublist.refl [id]))

theorem append (h₁ : m.Explores w [id] w₁ left₁) (h : m.Explores w₁ ids w' left) :
    m.Explores w (id :: ids) w' (left₁ ++ left) where
  order := by rw [h.order, h₁.order, List.append_assoc]
  mem_seen_iff := by
    intro u
    rw [h.mem_seen_iff, h₁.mem_seen_iff, List.mem_append, or_assoc]
  fresh := by
    intro u hu
    rcases List.mem_append.1 hu with hu | hu
    · exact h₁.fresh u hu
    · exact fun hmem => h.fresh u hu ((h₁.mem_seen_iff u).2 (.inl hmem))
  nodup := by
    refine List.nodup_append.2 ⟨h₁.nodup, h.nodup, ?_⟩
    rintro a ha b hb rfl
    exact h.fresh a hb ((h₁.mem_seen_iff a).2 (.inr ha))
  visited := by
    intro u hu
    rcases List.mem_cons.1 hu with rfl | hu
    · exact (h.mem_seen_iff u).2 (.inl (h₁.visited u (List.mem_singleton_self u)))
    · exact h.visited u hu
  builtOn := by
    intro u hu
    rcases List.mem_append.1 hu with hu | hu
    · obtain ⟨v, hv, hvu⟩ := h₁.builtOn u hu
      exact ⟨v, List.mem_singleton.1 hv ▸ List.mem_cons_self, hvu⟩
    · obtain ⟨v, hv, hvu⟩ := h.builtOn u hu
      exact ⟨v, List.mem_cons_of_mem id hv, hvu⟩
  closed := by
    intro u hu v huv
    rcases List.mem_append.1 hu with hu | hu
    · exact (h.mem_seen_iff v).2 (.inl (h₁.closed u hu v huv))
    · exact h.closed u hu v huv
  sorted := by
    intro u hu v huv
    rcases List.mem_append.1 hu with hu | hu
    · rcases h₁.sorted u hu v huv with hvu | hrest
      · exact .inl (hvu.trans (List.sublist_append_left left₁ left))
      · exact .inr hrest
    · rcases h.sorted u hu v huv with hvu | hv | hvu
      · exact .inl (hvu.trans (List.sublist_append_right left₁ left))
      · rcases (h₁.mem_seen_iff v).1 hv with hv | hv
        · exact .inr (.inl hv)
        · exact .inl ((List.singleton_sublist.2 hv).append (List.singleton_sublist.2 hu))
      · exact .inr (.inr hvu)

end Explores

theorem Visits.explores {w w' : Walk} {ids : List String} (h : m.Visits w ids w') :
    ∃ left, m.Explores w ids w' left := by
  induction h with
  | done => exact ⟨[], .done⟩
  | seen hid _ ih =>
    obtain ⟨left, h⟩ := ih
    exact ⟨left, h.seen hid⟩
  | enter hid _ _ ih₁ ih =>
    obtain ⟨left₁, h₁⟩ := ih₁
    obtain ⟨left, h⟩ := ih
    exact ⟨_, (h₁.leave hid).append h⟩

theorem Visits.seen_subset {w w' : Walk} {ids : List String} (h : m.Visits w ids w') :
    w.seen ⊆ w'.seen := by
  obtain ⟨left, h⟩ := h.explores
  intro u hu
  exact (h.mem_seen_iff u).2 (.inl hu)

def unseen (m : Model) (w : Walk) : List String := m.ids.filter (· ∉ w.seen)

theorem length_unseen_le {w w' : Walk} (h : w.seen ⊆ w'.seen) :
    (m.unseen w').length ≤ (m.unseen w).length := by
  refine List.Sublist.length_le (List.monotone_filter_right m.ids fun u hu => ?_)
  simp only [decide_eq_true_eq] at hu ⊢
  exact fun hmem => hu (h hmem)

theorem length_unseen_lt {w : Walk} {id : String} (hid : id ∈ m.ids) (h : id ∉ w.seen) :
    (m.unseen { w with seen := id :: w.seen }).length < (m.unseen w).length := by
  have heq : m.unseen { w with seen := id :: w.seen } = (m.unseen w).filter (· ≠ id) := by
    simp [unseen, List.filter_filter]
  rw [heq]
  exact List.length_filter_lt_length_iff_exists.2 ⟨id, by simp [unseen, hid, h], by simp⟩

theorem mixins_eq_nil {id : String} (h : id ∉ m.ids) : m.mixins id = [] := by
  rw [List.eq_nil_iff_forall_not_mem]
  intro base hbase
  obtain ⟨node, hnode, -⟩ := mem_mixins_iff.1 hbase
  exact h (mem_ids_of_node? hnode)

theorem visits_foldl {fuel : Nat} {w : Walk} (h : (m.unseen w).length < fuel) (ids : List String) :
    m.Visits w ids (ids.foldl (m.visit fuel) w) := by
  -- each visit that goes on to mixins enters a shape, so the fuel left stays above the shapes unseen
  induction fuel generalizing w ids with
  | zero => cases h
  | succ fuel ihfuel =>
    induction ids generalizing w with
    | nil => exact .done
    | cons id ids ih =>
      rw [List.foldl_cons, visit]
      split
      · next hid => exact .seen hid (ih h)
      · next hid =>
        have hinner : m.Visits { w with seen := id :: w.seen } (m.mixins id)
            ((m.mixins id).foldl (m.visit fuel) { w with seen := id :: w.seen }) := by
          by_cases hmem : id ∈ m.ids
          · have hlt := length_unseen_lt hmem hid
            exact ihfuel (by omega) (m.mixins id)
          · rw [mixins_eq_nil hmem]
            exact .done
        have hseen : w.seen ⊆ ((m.mixins id).foldl (m.visit fuel)
            { w with seen := id :: w.seen }).seen := by
          intro u hu
          exact hinner.seen_subset (List.mem_cons_of_mem id hu)
        exact .enter hid hinner (ih (Nat.lt_of_le_of_lt (length_unseen_le hseen) h))

theorem visits_lineage (m : Model) (x : String) :
    m.Visits ⟨[], []⟩ [x] (m.visit (m.ids.length + 2) ⟨[], []⟩ x) := by
  have hle : (m.unseen ⟨[], []⟩).length ≤ m.ids.length := List.length_filter_le _ m.ids
  have hfuel : (m.unseen ⟨[], []⟩).length < m.ids.length + 2 := by omega
  exact visits_foldl hfuel [x]

theorem explores_lineage (m : Model) (x : String) :
    m.Explores ⟨[], []⟩ [x] (m.visit (m.ids.length + 2) ⟨[], []⟩ x) (m.lineage x) := by
  obtain ⟨left, h⟩ := (visits_lineage m x).explores
  have hleft : m.lineage x = left := h.order
  rw [hleft]
  exact h

theorem Visits.getLast?_order {w : Walk} {x : String} (h : m.Visits ⟨[], []⟩ [x] w) :
    w.order.getLast? = some x := by
  cases h with
  | seen hid => cases hid
  | enter _ _ hdone =>
    cases hdone
    simp

theorem mem_lineage_iff {x u : String} : u ∈ m.lineage x ↔ m.BuiltOn x u := by
  have h := explores_lineage m x
  have hseen (v : String) : v ∈ (m.visit (m.ids.length + 2) ⟨[], []⟩ x).seen ↔ v ∈ m.lineage x := by
    simp [h.mem_seen_iff]
  constructor
  · intro hu
    obtain ⟨v, hv, hvu⟩ := h.builtOn u hu
    exact List.mem_singleton.1 hv ▸ hvu
  · intro hu
    induction hu with
    | refl => exact (hseen x).1 (h.visited x (List.mem_singleton_self x))
    | tail _ huv ih => exact (hseen _).1 (h.closed _ ih _ huv)

theorem sublist_lineage {x u v : String} (hu : u ∈ m.lineage x) (huv : m.Mixes u v)
    (hcycle : ¬ m.BuiltOn v u) : [v, u].Sublist (m.lineage x) := by
  rcases (explores_lineage m x).sorted u hu v huv with hvu | hv | hvu
  · exact hvu
  · cases hv
  · exact absurd hvu hcycle

/-- Visiting a shape comes to an end, whatever cycles there are, and leaves what the shape is built
on, each once and the shape itself last. A mixin stands before what it is mixed into, unless it is
built on that in turn; where there are no cycles, always. -/
theorem lineage_puts_bases_first (m : Model) (x : String) :
    (∃ w, m.Visits ⟨[], []⟩ [x] w ∧ m.lineage x = w.order)
    ∧ (m.lineage x).Nodup ∧ (m.lineage x).getLast? = some x
    ∧ (∀ u, u ∈ m.lineage x ↔ m.BuiltOn x u)
    ∧ (∀ u ∈ m.lineage x, ∀ v ∈ m.lineage x, m.Mixes u v → ¬ m.BuiltOn v u →
      [v, u].Sublist (m.lineage x))
    ∧ ((∀ u v, m.Mixes u v → ¬ m.BuiltOn v u) →
      ∀ u ∈ m.lineage x, ∀ v, m.Mixes u v → [v, u].Sublist (m.lineage x)) :=
  ⟨⟨_, visits_lineage m x, rfl⟩, (explores_lineage m x).nodup, (visits_lineage m x).getLast?_order,
    fun _ => mem_lineage_iff, fun _ hu _ _ huv hcycle => sublist_lineage hu huv hcycle,
    fun hacyclic u hu v huv => sublist_lineage hu huv (hacyclic u v huv)⟩

end Model

end ShapeGraph
