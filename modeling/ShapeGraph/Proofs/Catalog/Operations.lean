import ShapeGraph.Proofs.Catalog.Resources
import ShapeGraph.Proofs.Grouping

namespace ShapeGraph

def ResourceView.boundOperations (r : ResourceView) : List String :=
  [Lifecycle.create, .put, .read, .update, .delete, .list].filterMap r.bound
    ++ r.operations ++ r.collectionOperations

theorem ResourceView.allOperations_eq (r : ResourceView) :
    r.allOperations = r.boundOperations := by
  have hlifecycle : r.lifecycle.map Prod.snd = Lifecycle.all.filterMap r.bound := by
    rw [lifecycle, List.map_filterMap]
    congr
    funext l
    cases r.bound l <;> rfl
  rw [allOperations, hlifecycle]
  rfl

namespace Model

variable {m : Model} {serviceId : String}

def boundOperations (m : Model) (serviceId : String) : List String :=
  ((m.service? serviceId).map ServiceView.operations).getD []
    ++ (m.resources serviceId).flatMap fun id =>
      ((m.resource? id).map ResourceView.boundOperations).getD []

theorem drains_serviceResources {s : ServiceView} (hs : m.service? serviceId = some s) :
    m.Drains [] s.resources (m.serviceResources serviceId) := by
  rw [serviceResources, hs]
  exact drains_walkResources m fun id hid => by simp [hid]

theorem collects_resources {s : ServiceView} (hs : m.service? serviceId = some s) :
    m.Collects [] (s.resources.map (1, ·)) (m.resources serviceId) := by
  refine (drains_serviceResources hs).collects ?_ ?_
  · simp [Function.comp_def]
  · exact List.pairwise_map.2 (List.pairwise_of_forall fun _ _ => by simp)

theorem resources_eq_nil (hs : m.service? serviceId = none) : m.resources serviceId = [] := by
  rw [resources, serviceResources, hs, List.map_nil]

theorem flatMap_serviceResources {s : ServiceView} (hs : m.service? serviceId = some s) :
    ((m.serviceResources serviceId).flatMap fun (_, r) => r.allOperations)
      = (m.resources serviceId).flatMap fun id =>
        ((m.resource? id).map ResourceView.boundOperations).getD [] := by
  rw [resources, List.flatMap_map]
  apply List.flatMap_congr
  rintro ⟨id, r⟩ hmem
  rw [(drains_serviceResources hs).resource?_eq (id, r) hmem]
  exact r.allOperations_eq

theorem operations_eq : m.operations serviceId
    = (m.boundOperations serviceId).eraseDups.filter fun id => (m.operation? id).isSome := by
  cases hs : m.service? serviceId with
  | none => simp [operations, boundOperations, hs, resources_eq_nil hs]
  | some s =>
    rw [operations, boundOperations, hs]
    simp only [flatMap_serviceResources hs]
    rfl

theorem not_nestedAt (hs : m.service? serviceId = none) (n : Nat) (id : String) :
    ¬ m.NestedAt serviceId n id := by
  intro h
  induction h with
  | bound hs' => cases hs.symm.trans hs'
  | nested _ _ _ _ ih => exact ih

theorem mem_resources_iff {id : String} :
    id ∈ m.resources serviceId ↔ ∃ n, m.NestedAt serviceId n id := by
  cases hs : m.service? serviceId with
  | none => simp [resources_eq_nil hs, not_nestedAt hs]
  | some s => simp only [(collects_resources hs).mem_iff, chain_iff_nestedAt hs]

theorem nodup_resources : (m.resources serviceId).Nodup := by
  cases hs : m.service? serviceId with
  | none => simp [resources_eq_nil hs]
  | some s => exact (collects_resources hs).nodup

theorem pairwise_resources : (m.resources serviceId).Pairwise fun a b =>
    ∀ n, m.NestedAt serviceId n b → ∃ k ≤ n, m.NestedAt serviceId k a := by
  cases hs : m.service? serviceId with
  | none => simp [resources_eq_nil hs]
  | some s => simpa only [chain_iff_nestedAt hs] using (collects_resources hs).sorted

theorem mem_operations_iff {id : String} : id ∈ m.operations serviceId
    ↔ id ∈ m.boundOperations serviceId ∧ (m.operation? id).isSome := by
  rw [operations_eq, List.mem_filter, List.mem_eraseDups]

theorem pairwise_operations : (m.operations serviceId).Pairwise fun a b =>
    (m.boundOperations serviceId).idxOf a < (m.boundOperations serviceId).idxOf b := by
  rw [operations_eq]
  exact (pairwise_idxOf_eraseDups (m.boundOperations serviceId)).filter _

/-- A service lists the resources that chains of nested resources lead to, each once and none
before one with a shorter chain. It lists the operations among the ids that it binds itself and that
those resources bind, each once and in the order in which they are first bound. -/
theorem resources_and_operations_of_service (m : Model) (serviceId : String) :
    (∀ s, m.service? serviceId = some s → m.Drains [] s.resources (m.serviceResources serviceId))
    ∧ (∀ id, id ∈ m.resources serviceId ↔ ∃ n, m.NestedAt serviceId n id)
    ∧ (m.resources serviceId).Nodup
    ∧ (m.resources serviceId).Pairwise (fun a b =>
      ∀ n, m.NestedAt serviceId n b → ∃ k ≤ n, m.NestedAt serviceId k a)
    ∧ (∀ id, id ∈ m.operations serviceId
      ↔ id ∈ m.boundOperations serviceId ∧ (m.operation? id).isSome)
    ∧ (m.operations serviceId).Nodup
    ∧ (m.operations serviceId).Pairwise fun a b =>
      (m.boundOperations serviceId).idxOf a < (m.boundOperations serviceId).idxOf b :=
  ⟨fun _ hs => drains_serviceResources hs, fun _ => mem_resources_iff, nodup_resources,
    pairwise_resources, fun _ => mem_operations_iff,
    pairwise_operations.imp fun h heq => by simp [heq] at h, pairwise_operations⟩

end Model

end ShapeGraph
