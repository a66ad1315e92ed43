namespace ShapeGraph

structure SortOrder {α : Type} (le : α → α → Bool) : Prop where
  trans (a b c : α) : le a b → le b c → le a c
  total (a b : α) : le a b || le b a
  antisymm (a b : α) : le a b → le b a → a = b

def firstBy {α : Type} (p : α → Bool) (le : α → α → Bool) (a b : α) : Bool :=
  if p a = p b then le a b else p a

namespace SortOrder

variable {α : Type} {le : α → α → Bool} {items items' sorted : List α} (h : SortOrder le)

include h

theorem pairwise_mergeSort (items : List α) : (items.mergeSort le).Pairwise (le · ·) :=
  List.pairwise_mergeSort h.trans h.total items

theorem mergeSort_eq (hperm : sorted.Perm items) (hsorted : sorted.Pairwise (le · ·)) :
    items.mergeSort le = sorted := by
  refine List.Perm.eq_of_pairwise ?_ (h.pairwise_mergeSort items) hsorted ?_
  · intro a b _ _ hab hba
    exact h.antisymm a b hab hba
  · exact (List.mergeSort_perm items le).trans hperm.symm

theorem mergeSort_eq_of_perm (hperm : items'.Perm items) :
    items'.mergeSort le = items.mergeSort le :=
  h.mergeSort_eq ((List.mergeSort_perm items le).trans hperm.symm) (h.pairwise_mergeSort items)

theorem firstBy (p : α → Bool) : SortOrder (firstBy p le) where
  trans a b c hab hbc := by
    have htrans := h.trans a b c
    simp only [ShapeGraph.firstBy] at hab hbc ⊢
    cases ha : p a <;> cases hb : p b <;> cases hc : p c <;> simp_all
  total a b := by
    have htotal := h.total a b
    simp only [ShapeGraph.firstBy]
    cases ha : p a <;> cases hb : p b <;> simp_all
  antisymm a b hab hba := by
    have hantisymm := h.antisymm a b
    simp only [ShapeGraph.firstBy] at hab hba
    cases ha : p a <;> cases hb : p b <;> simp_all

theorem pairwise_firstBy {p : α → Bool} {kind : Bool} (hkind : ∀ a ∈ items, p a = kind) :
    (items.mergeSort le).Pairwise (ShapeGraph.firstBy p le · ·) := by
  apply (h.pairwise_mergeSort items).imp_of_mem
  intro a b ha hb hab
  rw [ShapeGraph.firstBy, hkind a (List.mem_mergeSort.1 ha), hkind b (List.mem_mergeSort.1 hb),
    if_pos rfl]
  exact hab

theorem mergeSort_firstBy (p : α → Bool) (items : List α) :
    items.mergeSort (ShapeGraph.firstBy p le)
      = (items.filter p).mergeSort le ++ (items.filter fun a => !p a).mergeSort le := by
  have hfirst : ∀ a ∈ items.filter p, p a = true := fun a ha => (List.mem_filter.1 ha).2
  have hrest : ∀ a ∈ items.filter fun a => !p a, p a = false := by
    intro a ha
    simpa using (List.mem_filter.1 ha).2
  apply (h.firstBy p).mergeSort_eq
  · exact ((List.mergeSort_perm _ le).append (List.mergeSort_perm _ le)).trans
      (List.filter_append_perm p items)
  · refine List.pairwise_append.2 ⟨h.pairwise_firstBy hfirst, h.pairwise_firstBy hrest, ?_⟩
    intro a ha b hb
    rw [ShapeGraph.firstBy, hfirst a (List.mem_mergeSort.1 ha), hrest b (List.mem_mergeSort.1 hb)]
    rfl

end SortOrder

end ShapeGraph
