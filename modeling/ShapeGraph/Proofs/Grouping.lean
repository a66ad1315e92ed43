import Mathlib.Data.List.Induction
import Mathlib.Data.List.Nodup

namespace ShapeGraph

theorem eraseDups_concat {α : Type} [DecidableEq α] (l : List α) (a : α) :
    (l ++ [a]).eraseDups = if a ∈ l then l.eraseDups else l.eraseDups ++ [a] := by
  rw [List.eraseDups_append]
  by_cases ha : a ∈ l
  · simp [List.removeAll, ha]
  · simp [List.removeAll, List.eraseDups_cons, ha]

theorem pairwise_idxOf_eraseDups {α : Type} [DecidableEq α] (l : List α) :
    l.eraseDups.Pairwise fun a b => l.idxOf a < l.idxOf b := by
  induction l using List.reverseRecOn with
  | nil => exact .nil
  | append_singleton l a ih =>
    have hidx {b : α} (hb : b ∈ l.eraseDups) : (l ++ [a]).idxOf b = l.idxOf b :=
      List.idxOf_append_of_mem (List.mem_eraseDups.1 hb)
    have hl : l.eraseDups.Pairwise fun b c => (l ++ [a]).idxOf b < (l ++ [a]).idxOf c := by
      refine ih.imp_of_mem fun hb hc h => ?_
      rw [hidx hb, hidx hc]
      exact h
    rw [eraseDups_concat]
    split
    · exact hl
    · next ha =>
      have hlast : (l ++ [a]).idxOf a = l.length := by simp [List.idxOf_append_of_notMem ha]
      refine List.pairwise_append.2 ⟨hl, List.pairwise_singleton _ a, fun b hb c hc => ?_⟩
      cases List.mem_singleton.1 hc
      rw [hidx hb, hlast]
      exact List.idxOf_lt_length_iff.2 (List.mem_eraseDups.1 hb)

variable {α κ : Type} [DecidableEq κ] {kind? : α → Option κ} {items : List α} {kinds : List κ}

def gather (kind? : α → Option κ) (items : List α) (k : κ) : List α :=
  items.filter fun a => kind? a = some k

theorem gather_some (kind : α → κ) (items : List α) (k : κ) :
    gather (fun a => some (kind a)) items k = items.filter (kind · = k) := by
  simp only [gather, Option.some.injEq]

/-- The kinds that items of a list have, in the order in which they are first seen. -/
structure FirstSeen (kind? : α → Option κ) (items : List α) (kinds : List κ) : Prop where
  mem_iff (k : κ) : k ∈ kinds ↔ ∃ a ∈ items, kind? a = some k
  ordered : kinds.Pairwise fun k l =>
    items.findIdx (fun a => kind? a = some k) < items.findIdx fun a => kind? a = some l

theorem findIdx_lt_of_idxOf_filterMap_lt {k l : κ}
    (h : (items.filterMap kind?).idxOf k < (items.filterMap kind?).idxOf l) :
    items.findIdx (fun a => kind? a = some k) < items.findIdx fun a => kind? a = some l := by
  induction items with
  | nil => cases h
  | cons a items ih =>
    cases ha : kind? a with
    | none =>
      rw [List.filterMap_cons_none ha] at h
      simpa [List.findIdx_cons, ha] using ih h
    | some c =>
      rw [List.filterMap_cons_some ha, List.idxOf_cons, List.idxOf_cons] at h
      by_cases hl : c = l
      · simp [hl] at h
      · by_cases hk : c = k
        · simp [List.findIdx_cons, ha, hk, hk ▸ hl]
        · simp only [beq_eq_false_iff_ne.2 hk, beq_eq_false_iff_ne.2 hl, cond_false,
            Nat.add_lt_add_iff_right] at h
          simpa [List.findIdx_cons, ha, hk, hl] using ih h

theorem firstSeen_eraseDups (kind? : α → Option κ) (items : List α) :
    FirstSeen kind? items (items.filterMap kind?).eraseDups where
  mem_iff k := by rw [List.mem_eraseDups, List.mem_filterMap]
  ordered := (pairwise_idxOf_eraseDups _).imp findIdx_lt_of_idxOf_filterMap_lt

theorem filter_append_filter_perm {p q : α → Bool} (h : ∀ a, p a → q a = false) (items : List α) :
    (items.filter p ++ items.filter q).Perm (items.filter fun a => p a || q a) := by
  have hp : (items.filter fun a => p a || q a).filter p = items.filter p := by
    rw [List.filter_filter]
    refine List.filter_congr fun a _ => ?_
    cases p a <;> simp
  have hq : (items.filter fun a => p a || q a).filter (fun a => !p a) = items.filter q := by
    rw [List.filter_filter]
    refine List.filter_congr fun a _ => ?_
    cases hpa : p a <;> simp [hpa, h a]
  have hperm := List.filter_append_perm p (items.filter fun a => p a || q a)
  rwa [hp, hq] at hperm

theorem flatMap_gather_perm_of_nodup (h : kinds.Nodup) (items : List α) :
    (kinds.flatMap (gather kind? items)).Perm (items.filter fun a => (kind? a).any (· ∈ kinds)) := by
  induction kinds with
  | nil => simp
  | cons k kinds ih =>
    obtain ⟨hk, hkinds⟩ := List.nodup_cons.1 h
    have hapart (a : α) (ha : decide (kind? a = some k)) : (kind? a).any (· ∈ kinds) = false := by
      simp [of_decide_eq_true ha, hk]
    have hcons : (items.filter fun a => decide (kind? a = some k) || (kind? a).any (· ∈ kinds))
        = items.filter fun a => (kind? a).any (· ∈ k :: kinds) := by
      refine List.filter_congr fun a _ => ?_
      cases ha : kind? a <;> simp
    rw [List.flatMap_cons, ← hcons]
    exact ((ih hkinds).append_left _).trans (filter_append_filter_perm hapart items)

namespace FirstSeen

variable (h : FirstSeen kind? items kinds)

include h

theorem nodup : kinds.Nodup := by
  refine h.ordered.imp fun hlt heq => ?_
  rw [heq] at hlt
  exact Nat.lt_irrefl _ hlt

theorem gather_eq_nil_iff {k : κ} : gather kind? items k = [] ↔ k ∉ kinds := by
  rw [h.mem_iff, gather, List.filter_eq_nil_iff]
  simp

theorem flatMap_gather_perm :
    (kinds.flatMap (gather kind? items)).Perm (items.filter fun a => (kind? a).isSome) := by
  have hfilter : (items.filter fun a => (kind? a).any (· ∈ kinds))
      = items.filter fun a => (kind? a).isSome := by
    refine List.filter_congr fun a ha => ?_
    cases hkind : kind? a with
    | none => rfl
    | some k => simpa using (h.mem_iff k).2 ⟨a, ha, hkind⟩
  rw [← hfilter]
  exact flatMap_gather_perm_of_nodup h.nodup items

end FirstSeen

end ShapeGraph
