import Mathlib.Data.List.Nodup
import ShapeGraph.Catalog.Basic
import ShapeGraph.Proofs.Model.Lookup

namespace ShapeGraph.Model

variable {m : Model}

/-- A resource that the service binds, or that is nested in one, with the length of a chain of
resources that leads to it. -/
inductive NestedAt (m : Model) (serviceId : String) : Nat → String → Prop
  | bound {s : ServiceView} {id : String} :
      m.service? serviceId = some s → id ∈ s.resources → (m.resource? id).isSome →
      NestedAt m serviceId 1 id
  | nested {n : Nat} {id inner : String} {r : ResourceView} :
      NestedAt m serviceId n id → m.resource? id = some r → inner ∈ r.resources →
      (m.resource? inner).isSome → NestedAt m serviceId (n + 1) inner

inductive Drains (m : Model) : List String → List String → List (String × ResourceView) → Prop
  | done {seen : List String} : Drains m seen [] []
  | again {seen rest : List String} {id : String} {found : List (String × ResourceView)} :
      id ∈ seen → Drains m seen rest found → Drains m seen (id :: rest) found
  | resource {seen rest : List String} {id : String} {r : ResourceView}
      {found : List (String × ResourceView)} :
      id ∉ seen → m.resource? id = some r → Drains m (id :: seen) (rest ++ r.resources) found →
      Drains m seen (id :: rest) ((id, r) :: found)
  | other {seen rest : List String} {id : String} {found : List (String × ResourceView)} :
      id ∉ seen → m.resource? id = none → Drains m (id :: seen) rest found →
      Drains m seen (id :: rest) found

theorem mem_ids_of_resource? {id : String} {r : ResourceView} (h : m.resource? id = some r) :
    id ∈ m.ids := by
  simp only [resource?] at h
  split at h
  · next hform =>
    obtain ⟨s, hs, -⟩ := Option.map_eq_some_iff.1 hform
    exact mem_ids_of_shape? hs
  · cases h

theorem drains_walkResources (m : Model) {seen fresh pending : List String}
    (h : ∀ id ∈ m.ids, id ∈ fresh ↔ id ∉ seen) :
    m.Drains seen pending (m.walkResources fresh pending) := by
  fun_induction walkResources m fresh pending generalizing seen with
  | case1 => exact .done
  | case2 fresh id rest hid r hr ih =>
    refine .resource ((h id (mem_ids_of_resource? hr)).1 hid) hr (ih ?_)
    intro u hu
    simp [without, h u hu, and_comm]
  | case3 fresh id rest hid hr ih =>
    by_cases hseen : id ∈ seen
    · refine .again hseen (ih fun u hu => ?_)
      have hne (hu' : u ∉ seen) : u ≠ id := fun heq => hu' (heq ▸ hseen)
      simpa [without, h u hu] using hne
    · refine .other hseen hr (ih fun u hu => ?_)
      simp [without, h u hu, and_comm]
  | case4 fresh id rest hid ih =>
    by_cases hseen : id ∈ seen
    · exact .again hseen (ih h)
    · -- an id that is neither fresh nor seen is that of no shape
      have hids : id ∉ m.ids := fun hids => hid ((h id hids).2 hseen)
      have hr : m.resource? id = none := by
        rw [Option.eq_none_iff_forall_ne_some]
        exact fun r hr => hids (mem_ids_of_resource? hr)
      refine .other hseen hr (ih fun u hu => ?_)
      have hne : u ≠ id := fun heq => hids (heq ▸ hu)
      simp [h u hu, hne]

/-- The resources that chains from a queue lead to outside `seen`. An id in the queue stands with
the length of the chains that begin there. -/
inductive Chain (m : Model) (seen : List String) (queue : List (Nat × String)) : Nat → String → Prop
  | start {n : Nat} {id : String} :
      (n, id) ∈ queue → id ∉ seen → (m.resource? id).isSome → Chain m seen queue n id
  | nested {n : Nat} {id inner : String} {r : ResourceView} :
      Chain m seen queue n id → m.resource? id = some r → inner ∈ r.resources → inner ∉ seen →
      (m.resource? inner).isSome → Chain m seen queue (n + 1) inner

namespace Chain

variable {seen seen' : List String} {queue queue' : List (Nat × String)} {n d : Nat}
  {id u : String} {r : ResourceView}

theorem not_mem_seen (h : m.Chain seen queue n u) : u ∉ seen := by
  cases h with
  | start _ hu _ => exact hu
  | nested _ _ _ hu _ => exact hu

theorem isSome (h : m.Chain seen queue n u) : (m.resource? u).isSome := by
  cases h with
  | start _ _ hu => exact hu
  | nested _ _ _ _ hu => exact hu

theorem le (hqueue : ∀ p ∈ queue, d ≤ p.1) (h : m.Chain seen queue n u) : d ≤ n := by
  induction h with
  | start hmem _ _ => exact hqueue _ hmem
  | nested _ _ _ _ _ ih => omega

theorem mono
    (hqueue : ∀ n id, (n, id) ∈ queue → id ∉ seen → (m.resource? id).isSome → (n, id) ∈ queue')
    (hseen : ∀ id, id ∉ seen → (m.resource? id).isSome → id ∉ seen')
    (h : m.Chain seen queue n u) : m.Chain seen' queue' n u := by
  induction h with
  | start hmem hid hr => exact .start (hqueue _ _ hmem hid hr) (hseen _ hid hr) hr
  | nested _ hr hinner hid hsome ih => exact .nested ih hr hinner (hseen _ hid hsome) hsome

theorem tail (hr : m.resource? id = some r) (hqueue : ∀ p ∈ queue, d ≤ p.1)
    (h : m.Chain seen ((d, id) :: queue) n u) :
    u = id ∨ ∃ k ≤ n, m.Chain (id :: seen) (queue ++ r.resources.map (d + 1, ·)) k u := by
  induction h with
  | @start n u hmem hu hsome =>
    by_cases hid : u = id
    · exact .inl hid
    · rcases List.mem_cons.1 hmem with heq | hmem
      · cases heq
        exact absurd rfl hid
      · have hunseen : u ∉ id :: seen := by simp [hid, hu]
        exact .inr ⟨n, Nat.le_refl n, .start (List.mem_append_left _ hmem) hunseen hsome⟩
  | @nested n v u rv hv hrv hinner hu hsome ih =>
    by_cases hid : u = id
    · exact .inl hid
    have hunseen : u ∉ id :: seen := by simp [hid, hu]
    rcases ih with rfl | ⟨k, hk, hchain⟩
    · -- what is nested in the first id is now in the queue itself
      have hd : d ≤ n := hv.le (List.forall_mem_cons.2 ⟨Nat.le_refl d, hqueue⟩)
      rw [hr] at hrv
      cases hrv
      refine .inr ⟨d + 1, by omega, .start ?_ hunseen hsome⟩
      exact List.mem_append_right _ (List.mem_map.2 ⟨u, hinner, rfl⟩)
    · exact .inr ⟨k + 1, by omega, .nested hchain hrv hinner hunseen hsome⟩

theorem of_tail (hid : id ∉ seen) (hr : m.resource? id = some r)
    (h : m.Chain (id :: seen) (queue ++ r.resources.map (d + 1, ·)) n u) :
    m.Chain seen ((d, id) :: queue) n u := by
  induction h with
  | start hmem hu hsome =>
    have hunseen := fun hmem => hu (List.mem_cons_of_mem id hmem)
    rcases List.mem_append.1 hmem with hmem | hmem
    · exact .start (List.mem_cons_of_mem _ hmem) hunseen hsome
    · obtain ⟨inner, hinner, heq⟩ := List.mem_map.1 hmem
      cases heq
      have hfirst : m.Chain seen ((d, id) :: queue) d id :=
        .start List.mem_cons_self hid (by simp [hr])
      exact .nested hfirst hr hinner hunseen hsome
  | nested _ hrv hinner hu hsome ih =>
    exact .nested ih hrv hinner (fun hmem => hu (List.mem_cons_of_mem id hmem)) hsome

end Chain

structure Collects (m : Model) (seen : List String) (queue : List (Nat × String))
    (ids : List String) : Prop where
  mem_iff : ∀ u, u ∈ ids ↔ ∃ n, m.Chain seen queue n u
  nodup : ids.Nodup
  sorted : ids.Pairwise fun a b => ∀ n, m.Chain seen queue n b → ∃ k ≤ n, m.Chain seen queue k a

namespace Collects

variable {seen seen' : List String} {queue queue' : List (Nat × String)} {ids : List String}
  {d : Nat} {id : String} {r : ResourceView}

theorem nil : m.Collects seen [] [] where
  mem_iff u := by
    simp only [List.not_mem_nil, false_iff, not_exists]
    intro n h
    induction h with
    | start hmem => cases hmem
    | nested _ _ _ _ _ ih => exact ih
  nodup := .nil
  sorted := .nil

theorem congr (hchain : ∀ n u, m.Chain seen' queue' n u ↔ m.Chain seen queue n u)
    (h : m.Collects seen queue ids) : m.Collects seen' queue' ids where
  mem_iff u := by simp only [h.mem_iff, hchain]
  nodup := h.nodup
  sorted := by simpa only [hchain] using h.sorted

theorem cons (hid : id ∉ seen) (hr : m.resource? id = some r) (hqueue : ∀ p ∈ queue, d ≤ p.1)
    (h : m.Collects (id :: seen) (queue ++ r.resources.map (d + 1, ·)) ids) :
    m.Collects seen ((d, id) :: queue) (id :: ids) where
  mem_iff u := by
    constructor
    · intro hu
      rcases List.mem_cons.1 hu with rfl | hu
      · exact ⟨d, .start List.mem_cons_self hid (by simp [hr])⟩
      · obtain ⟨n, hn⟩ := (h.mem_iff u).1 hu
        exact ⟨n, hn.of_tail hid hr⟩
    · intro hu
      obtain ⟨n, hn⟩ := hu
      rcases hn.tail hr hqueue with rfl | ⟨k, -, hk⟩
      · exact List.mem_cons_self
      · exact List.mem_cons_of_mem id ((h.mem_iff u).2 ⟨k, hk⟩)
  nodup := by
    refine List.nodup_cons.2 ⟨fun hmem => ?_, h.nodup⟩
    obtain ⟨n, hn⟩ := (h.mem_iff id).1 hmem
    exact hn.not_mem_seen List.mem_cons_self
  sorted := by
    refine List.pairwise_cons.2
      ⟨fun b _ n hn => ?_, h.sorted.imp_of_mem fun {a b} _ hb hab n hn => ?_⟩
    · have hd : d ≤ n := hn.le (List.forall_mem_cons.2 ⟨Nat.le_refl d, hqueue⟩)
      exact ⟨d, hd, .start List.mem_cons_self hid (by simp [hr])⟩
    · rcases hn.tail hr hqueue with rfl | ⟨k, hk, hchain⟩
      · obtain ⟨j, hj⟩ := (h.mem_iff b).1 hb
        exact absurd List.mem_cons_self hj.not_mem_seen
      · obtain ⟨j, hj, hchain⟩ := hab k hchain
        exact ⟨j, Nat.le_trans hj hk, hchain.of_tail hid hr⟩

end Collects

def Level (queue : List (Nat × String)) : Prop :=
  queue.Pairwise fun p q => p.1 ≤ q.1 ∧ q.1 ≤ p.1 + 1

theorem Level.tail {queue : List (Nat × String)} {d : Nat} {id : String}
    (h : Level ((d, id) :: queue)) (inner : List String) :
    Level (queue ++ inner.map (d + 1, ·)) := by
  obtain ⟨hfirst, h⟩ := List.pairwise_cons.1 h
  refine List.pairwise_append.2 ⟨h, ?_, ?_⟩
  · exact List.pairwise_map.2 (List.pairwise_of_forall fun _ _ => by simp)
  · intro p hp q hq
    obtain ⟨u, -, rfl⟩ := List.mem_map.1 hq
    have := hfirst p hp
    simp only
    omega

theorem Drains.collects {seen pending : List String} {found : List (String × ResourceView)}
    (h : m.Drains seen pending found) {queue : List (Nat × String)}
    (hqueue : queue.map Prod.snd = pending) (hlevel : Level queue) :
    m.Collects seen queue (found.map Prod.fst) := by
  induction h generalizing queue with
  | done =>
    cases List.map_eq_nil_iff.1 hqueue
    exact .nil
  | again hid _ ih =>
    obtain ⟨⟨d, id⟩, queue, rfl, rfl, rfl⟩ := List.map_eq_cons_iff.1 hqueue
    refine (ih rfl (List.pairwise_cons.1 hlevel).2).congr fun n u => ⟨?_, ?_⟩
    · refine Chain.mono (fun n v hmem hv _ => ?_) (fun _ hv _ => hv)
      rcases List.mem_cons.1 hmem with heq | hmem
      · cases heq
        exact absurd hid hv
      · exact hmem
    · exact Chain.mono (fun _ _ hmem _ _ => List.mem_cons_of_mem _ hmem) (fun _ hv _ => hv)
  | resource hid hr _ ih =>
    obtain ⟨⟨d, id⟩, queue, rfl, rfl, rfl⟩ := List.map_eq_cons_iff.1 hqueue
    have hle : ∀ p ∈ queue, d ≤ p.1 := fun p hp => ((List.pairwise_cons.1 hlevel).1 p hp).1
    refine .cons hid hr hle (ih ?_ (hlevel.tail _))
    simp [Function.comp_def]
  | other hid hr _ ih =>
    obtain ⟨⟨d, id⟩, queue, rfl, rfl, rfl⟩ := List.map_eq_cons_iff.1 hqueue
    have hne {v : String} (hsome : (m.resource? v).isSome) : v ≠ id := by
      rintro rfl
      simp [hr] at hsome
    refine (ih rfl (List.pairwise_cons.1 hlevel).2).congr fun n u => ⟨?_, ?_⟩
    · refine Chain.mono (fun n v hmem _ hsome => ?_) (fun v hv hsome => ?_)
      · rcases List.mem_cons.1 hmem with heq | hmem
        · cases heq
          exact absurd rfl (hne hsome)
        · exact hmem
      · simp [hne hsome, hv]
    · refine Chain.mono (fun _ _ hmem _ _ => List.mem_cons_of_mem _ hmem) (fun v hv _ => ?_)
      exact fun hmem => hv (List.mem_cons_of_mem id hmem)

theorem Drains.resource?_eq {seen pending : List String} {found : List (String × ResourceView)}
    (h : m.Drains seen pending found) : ∀ e ∈ found, m.resource? e.1 = some e.2 := by
  induction h with
  | done => simp
  | again _ _ ih => exact ih
  | resource _ hr _ ih =>
    intro e he
    rcases List.mem_cons.1 he with rfl | he
    · exact hr
    · exact ih e he
  | other _ _ _ ih => exact ih

theorem chain_iff_nestedAt {serviceId : String} {s : ServiceView}
    (hs : m.service? serviceId = some s) {n : Nat} {id : String} :
    m.Chain [] (s.resources.map (1, ·)) n id ↔ m.NestedAt serviceId n id := by
  constructor
  · intro h
    induction h with
    | start hmem _ hsome =>
      obtain ⟨_, hmem, heq⟩ := List.mem_map.1 hmem
      cases heq
      exact .bound hs hmem hsome
    | nested _ hr hinner _ hsome ih => exact .nested ih hr hinner hsome
  · intro h
    induction h with
    | bound hs' hmem hsome =>
      cases hs.symm.trans hs'
      exact .start (List.mem_map.2 ⟨_, hmem, rfl⟩) List.not_mem_nil hsome
    | nested _ hr hinner hsome ih => exact .nested ih hr hinner List.not_mem_nil hsome

end ShapeGraph.Model
