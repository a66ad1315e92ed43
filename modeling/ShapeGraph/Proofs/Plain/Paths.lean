import Mathlib.Data.List.FinRange
import ShapeGraph.Trait.Plain

/-!
The paths into a value, and what is wrong at their ends. No path goes on within a container that
encloses itself, nor behind a key that is no text.
-/

namespace ShapeGraph

/-- `ps` lists what stands at the places of a tree, depth first: a place is the way down to it. -/
def InOrder {κ : Type} (P : List Nat → κ → Prop) (ps : List κ) : Prop :=
  ∃ found : List (List Nat × κ), found.map Prod.snd = ps
    ∧ found.Pairwise (fun a b => List.Lex (· < ·) a.1 b.1)
    ∧ ∀ place p, (place, p) ∈ found ↔ P place p

namespace InOrder

variable {κ α : Type} {P : List Nat → κ → Prop} {ps : List κ}

theorem mem_iff (h : InOrder P ps) {p : κ} : p ∈ ps ↔ ∃ place, P place p := by
  obtain ⟨found, rfl, -, hmem⟩ := h
  constructor
  · intro hp
    obtain ⟨⟨place, p⟩, hfound, rfl⟩ := List.mem_map.1 hp
    exact ⟨place, (hmem place p).1 hfound⟩
  · rintro ⟨place, hp⟩
    exact List.mem_map.2 ⟨(place, p), (hmem place p).2 hp, rfl⟩

theorem nil (h : ∀ place p, ¬ P place p) : InOrder P [] :=
  ⟨[], rfl, .nil, fun place p => by simp [h place p]⟩

theorem single {p : κ} (h : ∀ place q, P place q ↔ place = [] ∧ q = p) : InOrder P [p] :=
  ⟨[([], p)], rfl, List.pairwise_singleton _ _, fun place q => by simp [h]⟩

theorem congr {Q : List Nat → κ → Prop} (h : InOrder P ps)
    (hPQ : ∀ place p, P place p ↔ Q place p) : InOrder Q ps := by
  obtain ⟨found, hsnd, hsorted, hmem⟩ := h
  exact ⟨found, hsnd, hsorted, fun place p => (hmem place p).trans (hPQ place p)⟩

theorem flatMap {items : List α} {f : α → List κ}
    (hitem : ∀ i (hi : i < items.length), InOrder (fun place p => P (i :: place) p) (f items[i]))
    (hbelow : ∀ place p, P place p → ∃ i < items.length, ∃ rest, place = i :: rest) :
    InOrder P (items.flatMap f) := by
  choose found hsnd hsorted hmem using fun i : Fin items.length => hitem i i.2
  refine ⟨(List.finRange items.length).flatMap fun i => (found i).map fun a => (↑i :: a.1, a.2),
    ?_, ?_, ?_⟩
  · have hpart (i : Fin items.length) :
        ((found i).map fun a => ((i : Nat) :: a.1, a.2)).map Prod.snd = f items[(i : Nat)] := by
      rw [List.map_map]
      exact hsnd i
    simp only [List.map_flatMap, hpart]
    rw [← List.flatMap_map (fun i : Fin items.length => items[(i : Nat)]) f,
      List.map_getElem_finRange]
  · rw [List.pairwise_flatMap]
    refine ⟨fun i _ => ?_, (List.pairwise_lt_finRange _).imp fun hij a ha b hb => ?_⟩
    · exact List.pairwise_map.2 ((hsorted i).imp .cons)
    · obtain ⟨a, -, rfl⟩ := List.mem_map.1 ha
      obtain ⟨b, -, rfl⟩ := List.mem_map.1 hb
      exact .rel hij
  · intro place p
    simp only [List.mem_flatMap, List.mem_finRange, true_and, List.mem_map, Prod.mk.injEq]
    constructor
    · rintro ⟨i, ⟨place, p⟩, hfound, rfl, rfl⟩
      exact (hmem i place p).1 hfound
    · intro hp
      obtain ⟨i, hi, rest, rfl⟩ := hbelow place p hp
      exact ⟨⟨i, hi⟩, (rest, p), (hmem ⟨i, hi⟩ rest p).2 hp, rfl, rfl⟩

end InOrder

def Layer.isContainer {α : Type} : Layer α → Bool
  | .list _ | .tuple _ | .mapping _ => true
  | _ => false

namespace Graph

variable {g : Graph}

def part? (g : Graph) (v : Fin g.size) (i : Nat) : Option (String × Fin g.size) :=
  match g.cell v with
  | .list items | .tuple items => items[i]?.map (s!"[{i}]", ·)
  | .mapping entries =>
    entries[i]?.bind fun
      | (.text name, item) => some ("." ++ name, item)
      | _ => none
  | _ => none

variable {v : Fin g.size} {i : Nat} {label : String} {part : Fin g.size}

theorem part?_items {items : List (Fin g.size)}
    (hcell : g.cell v = .list items ∨ g.cell v = .tuple items) :
    g.part? v i = items[i]?.map (s!"[{i}]", ·) := by
  rcases hcell with hcell | hcell <;> rw [part?, hcell]

theorem part?_entries {entries : List (Key × Fin g.size)} (hcell : g.cell v = .mapping entries) :
    g.part? v i = some (label, part)
      ↔ ∃ name, entries[i]? = some (.text name, part) ∧ label = "." ++ name := by
  rw [part?, hcell]
  simp only [Option.bind_eq_some_iff]
  constructor
  · rintro ⟨⟨key, item⟩, hentry, hpart⟩
    cases key <;> cases hpart
    exact ⟨_, hentry, rfl⟩
  · rintro ⟨name, hentry, rfl⟩
    exact ⟨_, hentry, rfl⟩

theorem isContainer_of_part? (h : g.part? v i = some (label, part)) :
    (g.cell v).isContainer := by
  rw [part?] at h
  cases hcell : g.cell v <;> simp only [hcell, reduceCtorEq] at h <;> rfl

structure Spot (g : Graph) where
  path : String
  above : List (Fin g.size)
  cell : Fin g.size

namespace Spot

def enter (s : Spot g) (label : String) (part : Fin g.size) : Spot g :=
  ⟨s.path ++ label, s.cell :: s.above, part⟩

inductive Leads : Spot g → List Nat → Spot g → Prop
  | here {s : Spot g} : Leads s [] s
  | down {s t : Spot g} {i : Nat} {label : String} {part : Fin g.size} {place : List Nat} :
      s.cell ∉ s.above → g.part? s.cell i = some (label, part) →
      Leads (s.enter label part) place t → Leads s (i :: place) t

inductive Flaw (s : Spot g) : List Nat → Problem TraitFault → Prop
  | callable {typeName : String} :
      g.cell s.cell = .callable typeName → Flaw s [] ⟨s.path, .callable⟩
  | foreign {typeName : String} :
      g.cell s.cell = .foreign typeName → Flaw s [] ⟨s.path, .foreign typeName⟩
  | circular : (g.cell s.cell).isContainer → s.cell ∈ s.above → Flaw s [] ⟨s.path, .circular⟩
  | key {entries : List (Key × Fin g.size)} {i : Nat} {key : Key} {item : Fin g.size} :
      s.cell ∉ s.above → g.cell s.cell = .mapping entries → entries[i]? = some (key, item) →
      (∀ name, key ≠ .text name) → Flaw s [i] ⟨s.path ++ "." ++ key.display, .keyType⟩

theorem Flaw.eq_nil {s : Spot g} {place : List Nat} {p : Problem TraitFault} (h : s.Flaw place p)
    (hstop : (g.cell s.cell).isContainer → s.cell ∈ s.above) : place = [] := by
  cases h with
  | key hnew hcell => exact absurd (hstop (by rw [hcell]; rfl)) hnew
  | _ => rfl

theorem Flaw.not_part? {s : Spot g} {i : Nat} {place : List Nat} {p : Problem TraitFault}
    (h : s.Flaw (i :: place) p) (label : String) (part : Fin g.size) :
    g.part? s.cell i ≠ some (label, part) := by
  cases h with
  | key _ hcell hentry hkey =>
    intro hpart
    obtain ⟨name, hentry', -⟩ := (part?_entries hcell).1 hpart
    cases hentry.symm.trans hentry'
    exact hkey name rfl

theorem Flaw.unique {s : Spot g} {p q : Problem TraitFault} (hp : s.Flaw [] p) (hq : s.Flaw [] q) :
    p = q := by
  cases hp <;> cases hq <;> simp_all [Layer.isContainer]

def Finds (s : Spot g) (place : List Nat) (p : Problem TraitFault) : Prop :=
  ∃ down last t, Leads s down t ∧ Flaw t last p ∧ place = down ++ last

variable {s : Spot g} {place : List Nat} {p : Problem TraitFault}

theorem finds_iff : s.Finds place p ↔ s.Flaw place p ∨ ∃ i label part rest,
    s.cell ∉ s.above ∧ g.part? s.cell i = some (label, part)
      ∧ (s.enter label part).Finds rest p ∧ place = i :: rest := by
  constructor
  · rintro ⟨down, last, t, hlead, hflaw, rfl⟩
    cases hlead with
    | here => exact .inl hflaw
    | down hnew hpart hlead =>
      exact .inr ⟨_, _, _, _, hnew, hpart, ⟨_, _, t, hlead, hflaw, rfl⟩, rfl⟩
  · rintro (hflaw | ⟨i, label, part, rest, hnew, hpart, ⟨down, last, t, hlead, hflaw, rfl⟩, rfl⟩)
    · exact ⟨[], place, s, .here, hflaw, rfl⟩
    · exact ⟨i :: down, last, t, .down hnew hpart hlead, hflaw, rfl⟩

theorem inOrder_stop {q : Problem TraitFault}
    (hstop : (g.cell s.cell).isContainer → s.cell ∈ s.above) (hq : s.Flaw [] q) :
    InOrder s.Finds [q] := by
  refine .single fun place p => ?_
  rw [finds_iff]
  constructor
  · rintro (hp | ⟨i, label, part, rest, hnew, hpart, -⟩)
    · obtain rfl := hp.eq_nil hstop
      exact ⟨rfl, hp.unique hq⟩
    · exact absurd (hstop (isContainer_of_part? hpart)) hnew
  · rintro ⟨rfl, rfl⟩
    exact .inl hq

theorem inOrder_enter {i : Nat} {label : String} {part : Fin g.size}
    {ps : List (Problem TraitFault)} (hnew : s.cell ∉ s.above)
    (hpart : g.part? s.cell i = some (label, part)) (h : InOrder (s.enter label part).Finds ps) :
    InOrder (fun place p => s.Finds (i :: place) p) ps := by
  refine h.congr fun place p => ?_
  constructor
  · exact fun hfinds => finds_iff.2 (.inr ⟨i, label, part, place, hnew, hpart, hfinds, rfl⟩)
  · intro hfinds
    rcases finds_iff.1 hfinds with hflaw | ⟨j, label', part', rest, -, hpart', hfinds, heq⟩
    · exact absurd hpart (hflaw.not_part? label part)
    · cases heq
      cases hpart.symm.trans hpart'
      exact hfinds

theorem inOrder_items {items : List (Fin g.size)}
    {f : Fin g.size × Nat → List (Problem TraitFault)} (hnew : s.cell ∉ s.above)
    (hcell : g.cell s.cell = .list items ∨ g.cell s.cell = .tuple items)
    (hitem : ∀ item i, InOrder (s.enter s!"[{i}]" item).Finds (f (item, i))) :
    InOrder s.Finds (items.zipIdx.flatMap f) := by
  refine .flatMap (fun i hi => ?_) fun place p hp => ?_
  · rw [List.length_zipIdx] at hi
    rw [List.getElem_zipIdx, Nat.zero_add]
    exact inOrder_enter hnew (by rw [part?_items hcell, List.getElem?_eq_getElem hi]; rfl)
      (hitem items[i] i)
  · rcases finds_iff.1 hp with hflaw | ⟨i, label, part, rest, -, hpart, -, rfl⟩
    · cases hflaw with
      | circular _ hmem => exact absurd hmem hnew
      | callable h | foreign h | key _ h _ _ => simp [h] at hcell
    · rw [part?_items hcell] at hpart
      obtain ⟨item, hitem, -⟩ := Option.map_eq_some_iff.1 hpart
      obtain ⟨hi, -⟩ := List.getElem?_eq_some_iff.1 hitem
      exact ⟨i, by rw [List.length_zipIdx]; exact hi, rest, rfl⟩

theorem inOrder_key {entries : List (Key × Fin g.size)} {i : Nat} {key : Key} {item : Fin g.size}
    (hnew : s.cell ∉ s.above) (hcell : g.cell s.cell = .mapping entries)
    (hentry : entries[i]? = some (key, item)) (hkey : ∀ name, key ≠ .text name) :
    InOrder (fun place p => s.Finds (i :: place) p)
      [⟨s.path ++ "." ++ key.display, .keyType⟩] := by
  refine .single fun place p => ?_
  rw [finds_iff]
  constructor
  · rintro (hflaw | ⟨j, label, part, rest, -, hpart, -, heq⟩)
    · cases hflaw with
      | key _ hcell' hentry' _ =>
        cases hcell.symm.trans hcell'
        cases hentry.symm.trans hentry'
        exact ⟨rfl, rfl⟩
    · cases heq
      obtain ⟨name, hentry', -⟩ := (part?_entries hcell).1 hpart
      cases hentry.symm.trans hentry'
      exact absurd rfl (hkey name)
  · rintro ⟨rfl, rfl⟩
    exact .inl (.key hnew hcell hentry hkey)

theorem inOrder_entries {entries : List (Key × Fin g.size)}
    {f : Key × Fin g.size → List (Problem TraitFault)} (hnew : s.cell ∉ s.above)
    (hcell : g.cell s.cell = .mapping entries)
    (htext : ∀ name item, InOrder (s.enter ("." ++ name) item).Finds (f (.text name, item)))
    (hkey : ∀ key item, (∀ name, key ≠ .text name) →
      f (key, item) = [⟨s.path ++ "." ++ key.display, .keyType⟩]) :
    InOrder s.Finds (entries.flatMap f) := by
  refine .flatMap (fun i hi => ?_) fun place p hp => ?_
  · have hentry : entries[i]? = some entries[i] := List.getElem?_eq_getElem hi
    generalize entries[i] = entry at hentry ⊢
    obtain ⟨key, item⟩ := entry
    by_cases htextual : ∃ name, key = .text name
    · obtain ⟨name, rfl⟩ := htextual
      exact inOrder_enter hnew ((part?_entries hcell).2 ⟨name, hentry, rfl⟩) (htext name item)
    · have hother : ∀ name, key ≠ .text name := fun name h => htextual ⟨name, h⟩
      rw [hkey key item hother]
      exact inOrder_key hnew hcell hentry hother
  · rcases finds_iff.1 hp with hflaw | ⟨i, label, part, rest, -, hpart, -, rfl⟩
    · cases hflaw with
      | circular _ hmem => exact absurd hmem hnew
      | callable h | foreign h => cases hcell.symm.trans h
      | key _ hcell' hentry _ =>
        cases hcell.symm.trans hcell'
        obtain ⟨hi, -⟩ := List.getElem?_eq_some_iff.1 hentry
        exact ⟨_, hi, [], rfl⟩
    · obtain ⟨name, hentry, -⟩ := (part?_entries hcell).1 hpart
      obtain ⟨hi, -⟩ := List.getElem?_eq_some_iff.1 hentry
      exact ⟨i, hi, rest, rfl⟩

end Spot

theorem mem_erase_iff_notMem_cons {fresh above : List (Fin g.size)} {v : Fin g.size}
    (hnodup : fresh.Nodup) (hfresh : ∀ u, u ∈ fresh ↔ u ∉ above) (u : Fin g.size) :
    u ∈ fresh.erase v ↔ u ∉ v :: above := by
  rw [hnodup.mem_erase_iff, hfresh, List.mem_cons, not_or]

/-- What a walk has left to enter is what is not above its cell. It shrinks on the way into a part
and is whole again for the next one, so parts that are shared are entered each time. -/
theorem inOrder_impurities {fresh above : List (Fin g.size)} {path : String} {v : Fin g.size}
    (hnodup : fresh.Nodup) (hfresh : ∀ u, u ∈ fresh ↔ u ∉ above) :
    InOrder (Spot.Finds ⟨path, above, v⟩) (g.impurities fresh path v) := by
  fun_induction impurities g fresh path v generalizing above with
  | case1 fresh path v typeName hcell =>
    exact Spot.inOrder_stop (by simp [hcell, Layer.isContainer]) (.callable hcell)
  | case2 fresh path v typeName hcell =>
    exact Spot.inOrder_stop (by simp [hcell, Layer.isContainer]) (.foreign hcell)
  | case4 fresh path v items hcell hmem | case6 fresh path v items hcell hmem
  | case8 fresh path v entries hcell hmem =>
    have hin : v ∈ above := by simpa [hfresh] using hmem
    exact Spot.inOrder_stop (fun _ => hin) (.circular (by simp only [hcell]; rfl) hin)
  | case3 fresh path v items hcell hmem ih | case5 fresh path v items hcell hmem ih =>
    refine Spot.inOrder_items ((hfresh v).1 hmem) (by simp [hcell]) fun item i => ?_
    have h := ih item i (hnodup.erase v) (mem_erase_iff_notMem_cons hnodup hfresh)
    simpa only [Spot.enter, toString, String.append_assoc] using h
  | case7 fresh path v entries hcell hmem ih =>
    refine Spot.inOrder_entries ((hfresh v).1 hmem) hcell (fun name item => ?_) ?_
    · have h := ih item name (hnodup.erase v) (mem_erase_iff_notMem_cons hnodup hfresh)
      simpa only [Spot.enter, String.append_assoc] using h
    · intro key item hkey
      cases key with
      | text name => exact absurd rfl (hkey name)
      | _ => rfl
  | case9 fresh path v hcallable hforeign hlist htuple hmapping =>
    have hleaf : ¬ (g.cell v).isContainer := by
      intro h
      cases hcell : g.cell v with
      | list items => exact hlist items hcell
      | tuple items => exact htuple items hcell
      | mapping entries => exact hmapping entries hcell
      | _ => rw [hcell] at h; cases h
    refine .nil fun place p hp => ?_
    rcases Spot.finds_iff.1 hp with hflaw | ⟨i, label, part, rest, -, hpart, -, -⟩
    · cases hflaw with
      | callable h => exact hcallable _ h
      | foreign h => exact hforeign _ h
      | circular h => exact hleaf h
      | key _ h => exact hmapping _ h
    · exact hleaf (isContainer_of_part? hpart)

theorem inOrder_plainProblems (path : String) (v : Fin g.size) :
    InOrder (Spot.Finds ⟨path, [], v⟩) (g.plainProblems path v) :=
  inOrder_impurities (List.nodup_finRange g.size) (by simp)

end Graph

end ShapeGraph
