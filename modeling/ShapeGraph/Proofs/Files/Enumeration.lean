import ShapeGraph.Files.Load
import ShapeGraph.Proofs.Sorting

namespace ShapeGraph.Files.Tree

variable {t t' : Tree} {here place : List String} {p : Path}

structure Relists (t' t : Tree) : Prop where
  perm : t'.entries.Perm t.entries
  nodup : (t.entries.map Prod.fst).Nodup

theorem find?_place_eq_some_iff {entries : List (List String × Entry)} {x : List String × Entry}
    (h : (entries.map Prod.fst).Nodup) :
    (entries.find? fun (p, _) => p = place) = some x ↔ x ∈ entries ∧ x.1 = place := by
  induction entries with
  | nil => simp
  | cons y entries ih =>
    obtain ⟨hy, hentries⟩ := List.nodup_cons.1 h
    by_cases hplace : y.1 = place
    · rw [List.find?_cons_of_pos (by simpa using hplace), Option.some.injEq, List.mem_cons]
      constructor
      · rintro rfl
        exact ⟨.inl rfl, hplace⟩
      · rintro ⟨rfl | hx, hxplace⟩
        · rfl
        · exact absurd (List.mem_map.2 ⟨x, hx, hxplace.trans hplace.symm⟩) hy
    · have hne : x.1 = place → x ≠ y := by
        rintro hxplace rfl
        exact hplace hxplace
      rw [List.find?_cons_of_neg (by simpa using hplace), ih hentries, List.mem_cons]
      exact ⟨fun h => ⟨.inr h.1, h.2⟩, fun h => ⟨h.1.resolve_left (hne h.2), h.2⟩⟩

theorem Relists.entryAt? (h : t'.Relists t) (place : List String) :
    t'.entryAt? place = t.entryAt? place := by
  cases place with
  | nil => rfl
  | cons name names =>
    have hnodup : (t'.entries.map Prod.fst).Nodup := (h.perm.map Prod.fst).nodup_iff.2 h.nodup
    refine congrArg (Option.map Prod.snd) (Option.ext fun x => ?_)
    rw [find?_place_eq_some_iff hnodup, find?_place_eq_some_iff h.nodup, h.perm.mem_iff]

theorem Relists.descend (h : t'.Relists t) (p : Path) (place names : List String) :
    t'.descend p place names = t.descend p place names := by
  induction names generalizing place with
  | nil => rw [Tree.descend, Tree.descend, h.entryAt?]
  | cons name names ih =>
    rw [Tree.descend, Tree.descend, h.entryAt?]
    split
    · exact ih _
    · rfl
    · rfl

theorem Relists.access (h : t'.Relists t) (here : List String) (p : Path) :
    t'.access here p = t.access here p := by
  rw [Tree.access, Tree.access]
  split <;> exact h.descend ..

theorem Relists.readModel (h : t'.Relists t) (here : List String) (p : Path) :
    t'.readModel here p = t.readModel here p := by
  rw [Tree.readModel, Tree.readModel, readText, readText, h.access]

theorem Relists.loadAll (h : t'.Relists t) (here : List String) (paths : List Path) :
    t'.loadAll here paths = t.loadAll here paths := by
  rw [Tree.loadAll, Tree.loadAll]
  congr 1
  induction paths with
  | nil => rfl
  | cons p paths ih => rw [readModels, readModels, h.readModel, ih]

theorem sortOrder_ways : SortOrder fun a b : List String => decide (¬ b < a) where
  trans a b c hab hbc := by
    rw [decide_eq_true_eq] at hab hbc ⊢
    exact List.le_trans hab hbc
  total a b := by
    rw [Bool.or_eq_true, decide_eq_true_eq, decide_eq_true_eq]
    exact List.le_total a b
  antisymm a b hab hba := by
    rw [decide_eq_true_eq] at hab hba
    exact List.le_antisymm hab hba

theorem Relists.jsonBelow (h : t'.Relists t) (place : List String) :
    t'.jsonBelow place = t.jsonBelow place :=
  sortOrder_ways.mergeSort_eq_of_perm ((h.perm.filterMap _).filter _)

theorem Relists.load (h : t'.Relists t) (here : List String) (p : Path) :
    t'.load here p = t.load here p := by
  rw [Tree.load, Tree.load, h.access]
  split
  · rfl
  · rename_i found _
    have hfiles : t'.modelFiles p found = t.modelFiles p found := by
      obtain ⟨place, _ | _⟩ := found
      · rfl
      · rw [modelFiles, modelFiles, h.jsonBelow]
    rw [h.loadAll, hfiles]

end ShapeGraph.Files.Tree
