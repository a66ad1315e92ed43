import ShapeGraph.Proofs.Grouping
import ShapeGraph.Proofs.ShapeId.Spelling

namespace ShapeGraph.Spelling

theorem cut_hash_eq_some_iff {id ns name : String} :
    Text.cut '#' id = some (ns, name) ↔ '#' ∉ ns.toList ∧ id = qualify ns name := by
  rw [Text.cut_eq_some_iff, ← String.toList_inj, and_comm]
  simp [qualify]

theorem ns?_eq_some_iff {id ns : String} :
    ns? id = some ns ↔ ns ≠ "" ∧ '#' ∉ ns.toList ∧ ∃ name, id = qualify ns name := by
  have hcut : ns? id = some ns ↔ ns ≠ "" ∧ ∃ name, Text.cut '#' id = some (ns, name) := by
    rw [ns?, split]
    rcases Text.cut '#' id with - | ⟨before, name⟩
    · simp
    · by_cases hbefore : before = ""
      · simp +contextual [hbefore, eq_comm]
      · simp only [if_neg hbefore, Option.some.injEq, Prod.mk.injEq, exists_and_left, exists_eq']
        constructor
        · rintro rfl
          exact ⟨hbefore, rfl, trivial⟩
        · exact fun h => h.2.1
  simp only [hcut, cut_hash_eq_some_iff, exists_and_left]

theorem restrict_eq_gather (ids : List String) (ns : String) :
    restrict ids ns = gather ns? ids ns :=
  rfl

theorem firstSeen_namespaces (ids : List String) : FirstSeen ns? ids (namespaces ids) :=
  firstSeen_eraseDups ns? ids

/-- The namespaces of ids are distinct and stand in the order in which they are first seen. Each
has the ids that it stands before, with their first `#` between, in the order in which they are
given; and together these are the ids that have a namespace, each as often as it is given. Nothing
is in a namespace that is not among them. -/
theorem partitioned_by_namespace (ids : List String) :
    (namespaces ids).Nodup ∧ FirstSeen ns? ids (namespaces ids)
    ∧ (∀ ns, (restrict ids ns).Sublist ids
      ∧ ∀ id, id ∈ restrict ids ns ↔ id ∈ ids ∧ ns? id = some ns)
    ∧ ((namespaces ids).flatMap (restrict ids)).Perm (ids.filter fun id => (ns? id).isSome)
    ∧ (∀ ns, restrict ids ns = [] ↔ ns ∉ namespaces ids)
    ∧ ∀ id ns, ns? id = some ns ↔ ns ≠ "" ∧ '#' ∉ ns.toList ∧ ∃ name, id = qualify ns name := by
  have h := firstSeen_namespaces ids
  refine ⟨h.nodup, h, fun ns => ⟨List.filter_sublist, fun id => ?_⟩, h.flatMap_gather_perm,
    fun ns => h.gather_eq_nil_iff, fun id ns => ns?_eq_some_iff⟩
  rw [restrict_eq_gather, gather, List.mem_filter, decide_eq_true_eq]

end ShapeGraph.Spelling
