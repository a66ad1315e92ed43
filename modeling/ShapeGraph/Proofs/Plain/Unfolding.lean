import Mathlib.Logic.Relation
import Mathlib.Tactic.Choose
import ShapeGraph.Proofs.Plain.Paths

namespace ShapeGraph.Graph

open Relation

variable {g : Graph} {u v w : Fin g.size} {j : Json}

def Part (g : Graph) (v w : Fin g.size) : Prop := ∃ i label, g.part? v i = some (label, w)

/-- The JSON that a cell stands for if its parts are written out wherever they occur. -/
inductive Unfolds (g : Graph) : Fin g.size → Json → Prop
  | null {v : Fin g.size} : g.cell v = .null → Unfolds g v .null
  | bool {v : Fin g.size} {b : Bool} : g.cell v = .bool b → Unfolds g v (.bool b)
  | int {v : Fin g.size} {n : Int} : g.cell v = .int n → Unfolds g v (.int n)
  | real {v : Fin g.size} {x : Binary64} : g.cell v = .real x → Unfolds g v (.real x)
  | text {v : Fin g.size} {s : String} : g.cell v = .text s → Unfolds g v (.str s)
  | array {v : Fin g.size} {items : List (Fin g.size)} {js : List Json} :
      g.cell v = .list items ∨ g.cell v = .tuple items → items.length = js.length →
      (∀ i (h : i < items.length) (h' : i < js.length), Unfolds g items[i] js[i]) →
      Unfolds g v (.arr js)
  | object {v : Fin g.size} {entries : List (Key × Fin g.size)} {fields : List (String × Json)} :
      g.cell v = .mapping entries → entries.map Prod.fst = fields.map (.text ·.1) →
      (∀ i (h : i < entries.length) (h' : i < fields.length),
        Unfolds g entries[i].2 fields[i].2) →
      Unfolds g v (.obj fields)

namespace Unfolds

theorem parts {motive : Fin g.size → Prop}
    (hstep : ∀ v, (∀ w, g.Part v w → (∃ j, g.Unfolds w j) ∧ motive w) → motive v)
    (h : g.Unfolds v j) : motive v := by
  have hleaf (v : Fin g.size) (h : ¬ (g.cell v).isContainer) : motive v := by
    refine hstep v fun w hw => ?_
    obtain ⟨i, label, hpart⟩ := hw
    exact absurd (isContainer_of_part? hpart) h
  induction h with
  | null hcell | bool hcell | int hcell | real hcell | text hcell =>
    exact hleaf _ (by simp [hcell, Layer.isContainer])
  | array hcell hlen hitem ih =>
    refine hstep _ fun w hw => ?_
    obtain ⟨i, label, hpart⟩ := hw
    rw [part?_items hcell] at hpart
    obtain ⟨item, hget, heq⟩ := Option.map_eq_some_iff.1 hpart
    obtain ⟨hi, rfl⟩ := List.getElem?_eq_some_iff.1 hget
    cases heq
    exact ⟨⟨_, hitem i hi (hlen ▸ hi)⟩, ih i hi (hlen ▸ hi)⟩
  | object hcell hkeys hitem ih =>
    have hlen := congrArg List.length hkeys
    rw [List.length_map, List.length_map] at hlen
    refine hstep _ fun w hw => ?_
    obtain ⟨i, label, hpart⟩ := hw
    obtain ⟨name, hget, -⟩ := (part?_entries hcell).1 hpart
    obtain ⟨hi, hentry⟩ := List.getElem?_eq_some_iff.1 hget
    have hw := hitem i hi (hlen ▸ hi)
    have hmotive := ih i hi (hlen ▸ hi)
    rw [hentry] at hw hmotive
    exact ⟨⟨_, hw⟩, hmotive⟩

theorem part (h : g.Unfolds v j) (hw : g.Part v w) : ∃ j, g.Unfolds w j :=
  h.parts (motive := fun v => ∀ w, g.Part v w → ∃ j, g.Unfolds w j)
    (fun _ hparts w hw => (hparts w hw).1) w hw

theorem not_cycle (h : g.Unfolds v j) : ¬ TransGen g.Part v v := by
  refine h.parts (motive := fun v => ¬ TransGen g.Part v v) fun v hparts hcycle => ?_
  obtain ⟨w, hw, hback⟩ := TransGen.head'_iff.1 hcycle
  exact (hparts w hw).2 (TransGen.tail' hback hw)

theorem reach (h : g.Unfolds v j) (hw : ReflTransGen g.Part v w) : ∃ j, g.Unfolds w j := by
  induction hw with
  | refl => exact ⟨j, h⟩
  | tail _ hpart ih =>
    obtain ⟨j', h'⟩ := ih
    exact h'.part hpart

theorem not_flaw {s : Spot g} (h : g.Unfolds s.cell j) (hnew : s.cell ∉ s.above)
    {place : List Nat} {p : Problem TraitFault} : ¬ s.Flaw place p := by
  intro hflaw
  cases hflaw with
  | circular _ hmem => exact hnew hmem
  | callable hcell | foreign hcell => cases h <;> simp_all
  | key _ hcell hentry hkey =>
    cases h with
    | object hcell' hkeys _ =>
      cases hcell.symm.trans hcell'
      have hmem := List.mem_map_of_mem (f := Prod.fst) (List.mem_of_getElem? hentry)
      rw [hkeys] at hmem
      obtain ⟨field, -, heq⟩ := List.mem_map.1 hmem
      exact hkey _ heq.symm
    | _ => simp_all

end Unfolds

theorem exists_unfolds_items {items : List (Fin g.size)}
    (hcell : g.cell v = .list items ∨ g.cell v = .tuple items)
    (hitem : ∀ item ∈ items, ∃ j, g.Unfolds item j) : ∃ j, g.Unfolds v j := by
  choose f hf using fun i : Fin items.length => hitem items[i] (List.getElem_mem i.2)
  refine ⟨.arr (List.ofFn f), .array hcell (List.length_ofFn).symm fun i hi _ => ?_⟩
  rw [List.getElem_ofFn]
  exact hf ⟨i, hi⟩

theorem exists_unfolds_entries {entries : List (Key × Fin g.size)}
    (hcell : g.cell v = .mapping entries)
    (hitem : ∀ entry ∈ entries, ∃ name j, entry.1 = .text name ∧ g.Unfolds entry.2 j) :
    ∃ j, g.Unfolds v j := by
  choose name f hname hf using fun i : Fin entries.length => hitem entries[i] (List.getElem_mem i.2)
  refine ⟨.obj (List.ofFn fun i => (name i, f i)), .object hcell ?_ fun i hi _ => ?_⟩
  · refine List.ext_getElem (by simp) fun i hi _ => ?_
    rw [List.length_map] at hi
    simpa using hname ⟨i, hi⟩
  · rw [List.getElem_ofFn]
    exact hf ⟨i, hi⟩

theorem exists_unfolds {fresh : List (Fin g.size)} {path : String}
    (h : g.impurities fresh path v = []) : ∃ j, g.Unfolds v j := by
  fun_induction impurities g fresh path v with
  | case1 | case2 | case4 | case6 | case8 => cases h
  | case3 fresh path v items hcell _ ih | case5 fresh path v items hcell _ ih =>
    have hitems : g.cell v = .list items ∨ g.cell v = .tuple items := by simp [hcell]
    refine exists_unfolds_items hitems fun item hitem => ?_
    obtain ⟨i, hget⟩ := List.getElem?_of_mem hitem
    have hmem : (item, i) ∈ items.zipIdx := List.mk_mem_zipIdx_iff_getElem?.2 hget
    exact ih item i (List.flatMap_eq_nil_iff.1 h (item, i) hmem)
  | case7 fresh path v entries hcell _ ih =>
    refine exists_unfolds_entries hcell fun entry hmem => ?_
    obtain ⟨key, item⟩ := entry
    have hnil := List.flatMap_eq_nil_iff.1 h (key, item) hmem
    cases key with
    | text name =>
      obtain ⟨j, hj⟩ := ih item name hnil
      exact ⟨name, j, rfl, hj⟩
    | _ => cases hnil
  | case9 fresh path v hcallable hforeign hlist htuple hmapping =>
    cases hcell : g.cell v with
    | null => exact ⟨_, .null hcell⟩
    | bool => exact ⟨_, .bool hcell⟩
    | int => exact ⟨_, .int hcell⟩
    | real => exact ⟨_, .real hcell⟩
    | text => exact ⟨_, .text hcell⟩
    | callable t => exact (hcallable t hcell).elim
    | foreign t => exact (hforeign t hcell).elim
    | list items => exact (hlist items hcell).elim
    | tuple items => exact (htuple items hcell).elim
    | mapping entries => exact (hmapping entries hcell).elim

namespace Spot

variable {s t : Spot g} {place : List Nat}

theorem Leads.reach (h : s.Leads place t) : ReflTransGen g.Part s.cell t.cell := by
  induction h with
  | here => exact .refl
  | down _ hpart _ ih => exact .head ⟨_, _, hpart⟩ ih

theorem Leads.above_reach (h : s.Leads place t) (habove : ∀ a ∈ s.above, TransGen g.Part a s.cell) :
    ∀ a ∈ t.above, TransGen g.Part a t.cell := by
  induction h with
  | here => exact habove
  | down _ hpart _ ih =>
    refine ih fun a ha => ?_
    rcases List.mem_cons.1 ha with rfl | ha
    · exact .single ⟨_, _, hpart⟩
    · exact (habove a ha).tail ⟨_, _, hpart⟩

theorem Leads.snoc {i : Nat} {label : String} {part : Fin g.size} (h : s.Leads place t)
    (hnew : t.cell ∉ t.above) (hpart : g.part? t.cell i = some (label, part)) :
    s.Leads (place ++ [i]) (t.enter label part) := by
  induction h with
  | here => exact .down hnew hpart .here
  | down hnew' hpart' _ ih => exact .down hnew' hpart' (ih hnew hpart)

theorem Leads.follow (h : s.Leads place t)
    (hnew : ∀ place t, s.Leads place t → (g.cell t.cell).isContainer → t.cell ∉ t.above)
    (hw : TransGen g.Part t.cell w) :
    ∃ place t', s.Leads place t' ∧ t'.cell = w ∧ t.cell ∈ t'.above := by
  -- as long as no container is met again, every part on the way is entered
  induction hw with
  | single hpart =>
    obtain ⟨i, label, hpart⟩ := hpart
    exact ⟨_, _, h.snoc (hnew _ _ h (isContainer_of_part? hpart)) hpart, rfl, List.mem_cons_self⟩
  | tail _ hpart ih =>
    obtain ⟨place', t', h', rfl, hmem⟩ := ih
    obtain ⟨i, label, hpart⟩ := hpart
    exact ⟨_, _, h'.snoc (hnew _ _ h' (isContainer_of_part? hpart)) hpart, rfl,
      List.mem_cons_of_mem _ hmem⟩

end Spot

theorem plainProblems_eq_nil_iff {path : String} :
    g.plainProblems path v = [] ↔ ∃ j, g.Unfolds v j := by
  constructor
  · exact exists_unfolds
  · rintro ⟨j, h⟩
    rw [List.eq_nil_iff_forall_not_mem]
    intro p hp
    obtain ⟨_, down, last, t, hlead, hflaw, -⟩ := (inOrder_plainProblems path v).mem_iff.1 hp
    obtain ⟨j', ht⟩ := h.reach hlead.reach
    refine ht.not_flaw (fun hmem => ?_) hflaw
    exact ht.not_cycle (hlead.above_reach (by simp) _ hmem)

theorem circular_mem_plainProblems_iff {path : String} :
    (∃ p ∈ g.plainProblems path v, p.cause = .circular)
      ↔ ∃ u, ReflTransGen g.Part v u ∧ TransGen g.Part u u := by
  constructor
  · rintro ⟨p, hp, hcause⟩
    obtain ⟨_, down, last, t, hlead, hflaw, -⟩ := (inOrder_plainProblems path v).mem_iff.1 hp
    cases hflaw with
    | circular _ hmem => exact ⟨t.cell, hlead.reach, hlead.above_reach (by simp) _ hmem⟩
    | _ => cases hcause
  · rintro ⟨u, hu, hcycle⟩
    by_contra hnone
    have hnew (place : List Nat) (t : Spot g) (h : Spot.Leads ⟨path, [], v⟩ place t)
        (hcontainer : (g.cell t.cell).isContainer) : t.cell ∉ t.above := by
      intro hmem
      have hfinds : Spot.Finds ⟨path, [], v⟩ (place ++ []) ⟨t.path, .circular⟩ :=
        ⟨place, [], t, h, .circular hcontainer hmem, rfl⟩
      exact hnone ⟨_, (inOrder_plainProblems path v).mem_iff.2 ⟨_, hfinds⟩, rfl⟩
    obtain ⟨place, t, hlead, rfl⟩ : ∃ place t, Spot.Leads ⟨path, [], v⟩ place t ∧ t.cell = u := by
      rcases reflTransGen_iff_eq_or_transGen.1 hu with rfl | hu
      · exact ⟨[], _, .here, rfl⟩
      · obtain ⟨place, t, hlead, ht, -⟩ := Spot.Leads.here.follow hnew hu
        exact ⟨place, t, hlead, ht⟩
    -- Once around the cycle, the cell that it started from encloses itself.
    obtain ⟨place', t', hlead', ht', hmem⟩ := hlead.follow hnew hcycle
    obtain ⟨w, ⟨i, label, hpart⟩, -⟩ := TransGen.head'_iff.1 hcycle
    rw [← ht'] at hpart hmem
    exact hnew place' t' hlead' (isContainer_of_part? hpart) hmem

/-- A value has one problem for each path to a callable or to something foreign, one for each key
on a path that is no text, and one for each path back to a container that it is within, in
depth-first order. So it has none exactly if it unfolds to JSON, and it is circular exactly if some
path leads to a cycle. -/
theorem plainProblems_along_paths (g : Graph) (path : String) (v : Fin g.size) :
    InOrder (Spot.Finds ⟨path, [], v⟩) (g.plainProblems path v)
    ∧ (∀ p ∈ g.plainProblems path v, p.cause.code = if p.cause = .circular then
      "INVALID_CUSTOM_TRAIT_VALUE" else "INVALID_CUSTOM_TRAIT_TYPE")
    ∧ (g.plainProblems path v = [] ↔ ∃ j, g.Unfolds v j)
    ∧ ((∃ p ∈ g.plainProblems path v, p.cause = .circular)
      ↔ ∃ u, ReflTransGen g.Part v u ∧ TransGen g.Part u u) := by
  refine ⟨inOrder_plainProblems path v, fun p hp => ?_, plainProblems_eq_nil_iff,
    circular_mem_plainProblems_iff⟩
  obtain ⟨_, down, last, t, -, hflaw, -⟩ := (inOrder_plainProblems path v).mem_iff.1 hp
  cases hflaw <;> rfl

end ShapeGraph.Graph
