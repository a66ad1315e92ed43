import ShapeGraph.Proofs.Acceptance.Model
import ShapeGraph.Proofs.Locality.Reference

namespace ShapeGraph

namespace Statement

def reference? (s : Statement) : Option String :=
  s.context.bind fun details => (details.getD "reference").str?

def ReportsLost (s : Statement) : Prop := s.code = "INVALID_SHAPE_REFERENCE"

instance : DecidablePred ReportsLost := fun s =>
  inferInstanceAs (Decidable (s.code = "INVALID_SHAPE_REFERENCE"))

end Statement

namespace ShapeFault

theorem reference?_statement (f : ShapeFault) : f.statement.reference? = f.reference? := by
  cases f <;> rfl

theorem reportsLost_statement_iff {f : ShapeFault} :
    f.statement.ReportsLost ↔ ∃ target, f.reference? = some target := by
  cases f with
  | slotMissing slot =>
    cases slot <;> simp [Statement.ReportsLost, statement, code, Slot.code, reference?]
  | _ => simp [Statement.ReportsLost, statement, code, reference?]

end ShapeFault

namespace ShapeCheck

open Layered

variable {α : Type} [Layered α]

def report (shown : α → String) (scope : Scope) (id : String) (v : α) : Report Statement :=
  ⟨(check shown scope id v).map (·.map ShapeFault.statement)⟩

variable {shown : α → String} {scope scope' : Scope} {id : String} {v : α}

theorem isLeft_iff {p : Problem ShapeFault} :
    isLeft scope p ↔ ∀ target, p.cause.reference? = some target → ¬ scope.allows target := by
  simp [isLeft, Option.all_eq_true]

theorem check_of_more_allowed (h : ∀ target, scope.allows target → scope'.allows target) :
    check shown scope' id v = (check shown scope id v).filter (isLeft scope') := by
  rw [(Follows.check shown id v).eq_filter scope', (Follows.check shown id v).eq_filter scope,
    List.filter_filter]
  apply List.filter_congr
  intro p _
  rw [Bool.eq_self_and, isLeft_iff, isLeft_iff]
  intro hleft target htarget hallows
  exact hleft target htarget (h target hallows)

theorem filter_check_lost :
    (check shown scope id v).filter (fun p => p.cause.reference?.isSome)
      = ((references id v).filter fun r => ¬ scope.allows r.target).map lost := by
  rw [(Follows.check shown id v).eq_filter scope, List.filter_filter]
  simp only [Bool.and_comm]
  rw [← List.filter_filter, (Follows.check shown id v).lost_eq, List.filter_map]
  congr 2
  funext r
  simp [isLeft, lost, ShapeFault.reference?]

theorem filter_reportsLost : (report shown scope id v).problems.filter (·.cause.ReportsLost)
    = ((references id v).filter fun r => ¬ scope.allows r.target).map fun r =>
        (lost r).map ShapeFault.statement := by
  have hlost : (check shown scope id v).filter ((fun p => decide p.cause.ReportsLost)
        ∘ fun p => p.map ShapeFault.statement)
      = (check shown scope id v).filter fun p => p.cause.reference?.isSome := by
    apply List.filter_congr
    intro p _
    rw [Bool.eq_iff_iff, Function.comp_apply, decide_eq_true_eq, Problem.cause_map,
      ShapeFault.reportsLost_statement_iff, Option.isSome_iff_exists]
  simp only [report]
  rw [List.filter_map, hlost, filter_check_lost, List.map_map]
  rfl

theorem report_of_more_allowed (h : ∀ target, scope.allows target → scope'.allows target)
    {drop : Problem Statement → Prop} [DecidablePred drop]
    (hdrop : ∀ p, isLeft scope' p ↔ ¬ drop (p.map ShapeFault.statement)) :
    (report shown scope' id v).problems = (report shown scope id v).problems.filter fun p => ¬ drop p := by
  simp only [report]
  rw [check_of_more_allowed h, List.filter_map]
  congr 1
  apply List.filter_congr
  intro p _
  rw [Bool.eq_iff_iff, hdrop, Function.comp_apply, decide_eq_true_eq]

/-- With more ids, a check reports the same less the lost references that are among them, and
without a limit, less all lost references. -/
theorem report_in_wider_scope {narrow wide : List String} (hne : narrow ≠ [])
    (hsub : narrow ⊆ wide) (shown : α → String) (id : String) (v : α) :
    (report shown (.ofIds wide) id v).problems
        = (report shown (.ofIds narrow) id v).problems.filter (fun p =>
            ¬ (p.cause.ReportsLost ∧ ∃ target ∈ wide, p.cause.reference? = some target))
      ∧ (report shown none id v).problems
        = (report shown (.ofIds narrow) id v).problems.filter (fun p => ¬ p.cause.ReportsLost) := by
  have hwide : wide ≠ [] := by
    rintro rfl
    exact hne (List.subset_nil.1 hsub)
  constructor
  · apply report_of_more_allowed
    · intro target ht
      rw [Scope.allows_ofIds hne] at ht
      rw [Scope.allows_ofIds hwide]
      exact hsub ht
    · intro p
      rw [isLeft_iff, Problem.cause_map, ShapeFault.reportsLost_statement_iff,
        ShapeFault.reference?_statement]
      simp only [Scope.allows_ofIds hwide]
      cases p.cause.reference? <;> simp
  · apply report_of_more_allowed
    · intro target _
      rfl
    · intro p
      rw [isLeft_iff, Problem.cause_map, ShapeFault.reportsLost_statement_iff, not_exists]
      simp [Scope.allows]

def oak : Json :=
  .obj [("type", .str "structure"),
    ("members", .obj [("fruit", .obj [("target", .str "Fruit")]), ("leaf", .obj [("target", .int 3)]),
      ("seed", .obj [("target", .str "Oak")])]),
    ("mixins", .arr [.null, .obj [("target", .str "Tree")], .str "Soil"])]

theorem report_oak_in_wider_scope : ["Fruit"] ≠ [] ∧ ["Fruit"] ⊆ ["Tree", "Oak", "Fruit"]
    ∧ (report Json.display (.ofIds ["Tree", "Oak", "Fruit"]) "Oak" oak).problems.map Problem.path
      = ["Oak.leaf", "Oak.mixins[0]", "Oak.mixins[2]"]
    ∧ (report Json.display none "Oak" oak).problems.map Problem.path = ["Oak.leaf", "Oak.mixins[0]"] := by
  have hne : ["Fruit"] ≠ [] := by decide
  have hsub : ["Fruit"] ⊆ ["Tree", "Oak", "Fruit"] := by decide
  obtain ⟨hwide, hnone⟩ := report_in_wider_scope hne hsub Json.display "Oak" oak
  refine ⟨hne, hsub, ?_, ?_⟩
  · rw [hwide]
    rfl
  · rw [hnone]
    rfl

end ShapeCheck

end ShapeGraph
