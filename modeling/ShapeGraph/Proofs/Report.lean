import ShapeGraph.Problem
import ShapeGraph.Proofs.Fields
import ShapeGraph.Proofs.Grouping

namespace ShapeGraph.Report

variable {κ : Type} {problems : List (Problem κ)} {groups : Fields (List (Problem κ))}

structure Holds (groups : Fields (List (Problem κ))) (problems : List (Problem κ)) : Prop where
  keys : groups.keys = (problems.map Problem.path).eraseDups
  get? (path : String) : (groups.get? path).getD [] = problems.filter (·.path = path)

theorem holds_nil : Holds ([] : Fields (List (Problem κ))) [] where
  keys := rfl
  get? _ := rfl

theorem Holds.file (h : Holds groups problems) (p : Problem κ) :
    Holds (file p groups) (problems ++ [p]) where
  keys := by
    have hmem : p.path ∈ groups.keys ↔ p.path ∈ problems.map Problem.path := by
      rw [h.keys, List.mem_eraseDups]
    rw [Report.file, Fields.keys_set, List.map_append, List.map_singleton, eraseDups_concat,
      ← h.keys]
    simp only [hmem]
  get? path := by
    rw [Report.file, List.filter_append]
    by_cases hp : p.path = path
    · subst hp
      rw [Fields.get?_set_self, Option.getD_some, h.get?]
      simp
    · rw [Fields.get?_set_of_ne hp, h.get?]
      simp [hp]

theorem holds_foldl_file (h : Holds groups problems) (more : List (Problem κ)) :
    Holds (more.foldl (fun groups p => file p groups) groups) (problems ++ more) := by
  induction more generalizing groups problems with
  | nil => rwa [List.append_nil]
  | cons p more ih =>
    rw [List.append_cons]
    exact ih (h.file p)

theorem holds_byPath (r : Report κ) : Holds r.byPath r.problems :=
  holds_foldl_file holds_nil r.problems

namespace Holds

variable (h : Holds groups problems)

include h

theorem firstSeen : FirstSeen (fun p => some p.path) problems groups.keys := by
  have hseen := firstSeen_eraseDups (fun p : Problem κ => some p.path) problems
  rwa [List.filterMap_eq_map', ← h.keys] at hseen

theorem distinct : groups.Distinct := h.firstSeen.nodup

theorem filter_path_eq_nil_iff (path : String) :
    problems.filter (·.path = path) = [] ↔ path ∉ groups.keys := by
  rw [← gather_some Problem.path]
  exact h.firstSeen.gather_eq_nil_iff

theorem mem_iff (path : String) (group : List (Problem κ)) :
    (path, group) ∈ groups ↔ group = problems.filter (·.path = path) ∧ group ≠ [] := by
  constructor
  · intro hmem
    have hgroup : group = problems.filter (·.path = path) := by
      rw [← h.get?, h.distinct.get?_of_mem hmem, Option.getD_some]
    refine ⟨hgroup, fun hnil => ?_⟩
    rw [hgroup, h.filter_path_eq_nil_iff] at hnil
    exact hnil (List.mem_map_of_mem hmem)
  · rintro ⟨rfl, hne⟩
    have hkey := not_not.1 ((h.filter_path_eq_nil_iff path).not.1 hne)
    obtain ⟨group, hmem⟩ := Fields.mem_keys_iff.1 hkey
    rwa [← h.get?, h.distinct.get?_of_mem hmem, Option.getD_some]

theorem flatMap_perm : (groups.flatMap Prod.snd).Perm problems := by
  have hgroups : groups.flatMap Prod.snd
      = groups.keys.flatMap (gather (fun p => some p.path) problems) := by
    rw [Fields.keys, List.flatMap_map]
    refine List.flatMap_congr fun e he => ?_
    rw [gather_some]
    exact ((h.mem_iff e.1 e.2).1 he).1
  have hperm := h.firstSeen.flatMap_gather_perm
  rwa [← hgroups, List.filter_eq_self.2 fun _ _ => Option.isSome_some] at hperm

end Holds

/-- The paths of the problems of a report are distinct and stand in the order in which they are
first seen. Each has a group, which is not empty, of the problems at it in the order in which they
are reported; and together the groups are the problems. There is no group just where a report finds
nothing. -/
theorem partitioned_by_path (r : Report κ) :
    r.byPath.Distinct ∧ FirstSeen (fun p => some p.path) r.problems r.byPath.keys
    ∧ (∀ path group, (path, group) ∈ r.byPath
      ↔ group = r.problems.filter (·.path = path) ∧ group ≠ [])
    ∧ (r.byPath.flatMap Prod.snd).Perm r.problems
    ∧ (r.isValid ↔ r.byPath = []) := by
  have h := holds_byPath r
  refine ⟨h.distinct, h.firstSeen, h.mem_iff, h.flatMap_perm, ?_⟩
  rw [isValid, List.isEmpty_iff]
  constructor
  · intro hnil
    rw [byPath, hnil, List.foldl_nil]
  · intro hnil
    have hperm := h.flatMap_perm
    rw [hnil, List.flatMap_nil] at hperm
    exact hperm.nil_eq.symm

end ShapeGraph.Report
